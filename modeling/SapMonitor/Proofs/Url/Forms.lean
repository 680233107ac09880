import SapMonitor.Proofs.Url.Hosts
import SapMonitor.Proofs.Url.Paths

/-!
# The forms of the parts of a URL

What is read as a URL of the web with a port has all its parts in their forms: they are encoded, the
host and the path each in its own form, and the port is not the one that the scheme implies.

Main results:

- `readAuthority_eq_ok_iff`: what the parts of a URL come from.
- `proper_of_read`: the parts of a URL with a port are in their forms.
- `Proper.withHost`: they stay so when the host is changed.
-/

namespace SapMonitor.Url

/-- A URL for requests over the web whose parts are in their forms, with a port that its scheme does
not imply.  Only a path with nothing after it may be empty. -/
structure Proper (idna : Idna) (u : Url) : Prop where
  scheme : u.scheme = "http" ∨ u.scheme = "https"
  user : ∀ c ∈ u.user.toList, inUserSet c = false
  password : ∀ c ∈ u.password.toList, inUserSet c = false
  host : ∃ h, u.host = some h ∧ h.Proper idna
  port : ∃ p ≤ 65535, u.port = some p ∧ defaultPorts.lookup u.scheme ≠ some p
  path : IsPath u.path.toList ∨ (u.path = "" ∧ u.query = none ∧ u.fragment = none)
  query : ∀ q, u.query = some q → ∀ c ∈ q.toList, inQuerySet true c = false
  fragment : ∀ f, u.fragment = some f → ∀ c ∈ f.toList, inFragmentSet c = false

/-! ## What is read -/

section Reading

variable {idna : Idna} {scheme : String} {cs : List Char} {u : Url}

/-- The user part that is read is encoded. -/
theorem readUser_encoded {special : Bool} {authority rest : List Char} {user password : String}
    {hostPart : List Char} (h : readUser special authority rest = .ok (user, password, hostPart)) :
    (∀ c ∈ user.toList, inUserSet c = false) ∧ ∀ c ∈ password.toList, inUserSet c = false := by
  unfold readUser at h
  split at h
  · cases h
    simp
  · split at h
    · cases h
    · cases h
      simp only [String.toList_ofList]
      exact ⟨fun c hc => allowed_of_mem_encode sparesCodes_user hc,
        fun c hc => allowed_of_mem_encode sparesCodes_user hc⟩

theorem readPort_eq_ok_some {implied : Option Nat} {cs : List Char} {p : Nat}
    (h : readPort implied cs = .ok (some p)) : p ≤ 65535 ∧ implied ≠ some p := by
  unfold readPort at h
  split at h
  · cases h
  · split at h
    · cases h
    · simp only at h
      split at h
      · cases h
      · rename_i hle
        split at h
        · cases h
        · rename_i himplied
          obtain rfl := Option.some.inj (Except.ok.inj h)
          exact ⟨not_lt.1 hle, himplied⟩

/-- The text before the path. -/
def authorityOf (cs : List Char) : List Char :=
  cs.takeWhile fun c => !endsAuthority true c

/-- The text from the path on. -/
def afterAuthority (cs : List Char) : List Char :=
  cs.drop (authorityOf cs).length

/-- What the parts of a URL whose host is a domain or an address come from. -/
theorem readAuthority_eq_ok_iff (hspecial : isSpecial scheme = true) :
    readAuthority idna scheme cs = .ok u ↔ ∃ user password hostPart host port,
      readUser true (authorityOf cs) (afterAuthority cs) = .ok (user, password, hostPart) ∧
      (takeHost false hostPart).1 ≠ [] ∧ Host.read idna (takeHost false hostPart).1 = .ok host ∧
      host.isEmpty = false ∧
      readPort (defaultPorts.lookup scheme) ((takeHost false hostPart).2.drop 1) = .ok port ∧
      u = withTail
        { scheme := scheme, user := user, password := password, host := some host, port := port
          path := readPath true (cutAt '?' (cutAt '#' (afterAuthority cs)).1).1 }
        (cutAt '?' (cutAt '#' (afterAuthority cs)).1).2 (cutAt '#' (afterAuthority cs)).2 := by
  unfold readAuthority
  simp only [hspecial, if_true, bind_eq_ok_iff]
  constructor
  · rintro ⟨⟨user, password, hostPart⟩, huser, host, hhost, h⟩
    split at hhost
    · cases hhost
    · rename_i hne
      split at h
      · cases h
      · rename_i hempty
        obtain ⟨port, hport, h⟩ := bind_eq_ok_iff.1 h
        refine ⟨user, password, hostPart, host, port, huser, by simpa using hne, hhost, ?_, hport,
          (Except.ok.inj h).symm⟩
        simpa using hempty
  · rintro ⟨user, password, hostPart, host, port, huser, hne, hhost, hempty, hport, rfl⟩
    refine ⟨(user, password, hostPart), huser, host, ?_, ?_⟩
    · rw [if_neg (by simpa using hne)]
      exact hhost
    · rw [if_neg (by simp [hempty])]
      exact bind_eq_ok_iff.2 ⟨port, hport, rfl⟩

theorem isSpecial_of_web (h : scheme = "http" ∨ scheme = "https") : isSpecial scheme = true := by
  rcases h with rfl | rfl <;> decide

theorem proper_of_readAuthority (hscheme : scheme = "http" ∨ scheme = "https")
    (h : readAuthority idna scheme cs = .ok u) {p : Nat} (hport : u.port = some p) :
    u.Proper idna := by
  have hspecial := isSpecial_of_web hscheme
  obtain ⟨user, password, hostPart, host, port, huser, -, hhost, -, hreadPort, rfl⟩ :=
    (readAuthority_eq_ok_iff hspecial).1 h
  obtain rfl : port = some p := hport
  constructor
  · exact hscheme
  · exact (readUser_encoded huser).1
  · exact (readUser_encoded huser).2
  · exact ⟨host, rfl, Host.proper_of_read hhost⟩
  · obtain ⟨hle, hne⟩ := readPort_eq_ok_some hreadPort
    exact ⟨p, hle, rfl, hne⟩
  · exact .inl (isPath_readPath _)
  · intro q hq c hc
    obtain ⟨raw, -, rfl⟩ := Option.map_eq_some_iff.1 hq
    rw [String.toList_ofList, hspecial] at hc
    exact allowed_of_mem_encode (sparesCodes_query true) hc
  · intro f hf c hc
    obtain ⟨raw, -, rfl⟩ := Option.map_eq_some_iff.1 hf
    rw [String.toList_ofList] at hc
    exact allowed_of_mem_encode sparesCodes_fragment hc

/-- A text with a scheme of the web is read from its authority on. -/
theorem read_of_scheme {s : String} {rest : List Char} (hscheme : scheme = "http" ∨ scheme = "https")
    (h : takeScheme? (significant s.toList) = some (scheme.toList, rest)) :
    Url.read idna s = readAuthority idna scheme (rest.dropWhile fun c => c = '/' || c = '\\') := by
  unfold Url.read
  rw [h]
  simp only [String.ofList_toList]
  rw [if_pos (isSpecial_of_web hscheme)]

/-- The parts of a URL with a port are in their forms. -/
theorem proper_of_read {s : String} {rest : List Char}
    (hscheme : scheme = "http" ∨ scheme = "https")
    (hs : takeScheme? (significant s.toList) = some (scheme.toList, rest))
    (h : Url.read idna s = .ok u) {p : Nat} (hport : u.port = some p) : u.Proper idna := by
  rw [read_of_scheme hscheme hs] at h
  exact proper_of_readAuthority hscheme h hport

end Reading

/-- The parts of a URL stay in their forms when the host is changed. -/
theorem Proper.withHost {idna : Idna} {u : Url} (hu : u.Proper idna) {h : Host}
    (hh : h.Proper idna) : Proper idna { u with host := some h } :=
  { hu with host := ⟨h, rfl, hh⟩ }

end SapMonitor.Url
