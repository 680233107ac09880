import SapMonitor.Proofs.Settings.Validation
import SapMonitor.Proofs.Url.WrittenPorts

/-!
# The port of the service

The address of the service has to name a port.  Every port is kept but the one that the scheme
implies: it counts as none, so that settings which name it are refused as if they named no port.

Main results:

- `withScheme_written`: the ways to write the scheme of an address.
- `validate_missingPort_iff`: when a port is said to be missing.
- `keepsPorts`: which ports are kept, and what becomes of the others.
- `implied_port_refused`: a port that is named, and is said to be missing.
-/

namespace SapMonitor.Settings

open Url (Idna IsHostWord NamesPort defaultPorts)

/-! ## Addresses of one word -/

/-- The ways to write a scheme, each with the scheme that the address gets. -/
def schemeTexts : List (String × String) :=
  [("", "http"), ("http://", "http"), ("https://", "https")]

theorem web_of_mem_schemeTexts {front scheme : String} (h : (front, scheme) ∈ schemeTexts) :
    scheme = "http" ∨ scheme = "https" := by
  simp only [schemeTexts, List.mem_cons, Prod.mk.injEq, List.not_mem_nil, or_false] at h
  rcases h with ⟨-, rfl⟩ | ⟨-, rfl⟩ | ⟨-, rfl⟩ <;> simp

/-- The address of a word and a port, behind the text of a scheme. -/
def written (front host : String) (port : Nat) : String :=
  front ++ host ++ ":" ++ toString port

/-- A word and a port are without a scheme. -/
theorem withScheme_word {host : String} (hhost : IsHostWord host.toList) (port : Nat) :
    withScheme (written "" host port) = "http://" ++ written "" host port := by
  have hslash : '/' ∉ (written "" host port).toList := by
    have hnone : ∀ c ∈ host.toList ++ ':' :: port.repr.toList, c ≠ '/' := by
      rw [List.forall_mem_append, List.forall_mem_cons]
      refine ⟨fun c hc => Url.ne_of_kind (hhost.chars c hc) (by decide), by decide, fun c hc => ?_⟩
      exact Url.ne_of_kind (Decimal.isDigit_of_mem_repr hc) (by decide)
    intro hmem
    exact hnone '/' (by simpa [written] using hmem) rfl
  unfold withScheme
  rw [if_neg]
  rw [Bool.or_eq_true_iff, List.isPrefixOf_iff_prefix, List.isPrefixOf_iff_prefix]
  rintro (h | h)
  · exact hslash (h.subset (by decide))
  · exact hslash (h.subset (by decide))

/-- An address gets the scheme that is written, or the one of the web without encryption. -/
theorem withScheme_written {front scheme host : String} (hfront : (front, scheme) ∈ schemeTexts)
    (hhost : IsHostWord host.toList) (port : Nat) :
    (withScheme (written front host port)).toList =
      scheme.toList ++ ':' :: '/' :: '/' :: (host.toList ++ ':' :: port.repr.toList) := by
  simp only [schemeTexts, List.mem_cons, Prod.mk.injEq, List.not_mem_nil, or_false] at hfront
  rcases hfront with ⟨rfl, rfl⟩ | ⟨rfl, rfl⟩ | ⟨rfl, rfl⟩
  · rw [withScheme_word hhost]
    simp [written]
  · have htext : (written "http://" host port).toList =
        "http".toList ++ ':' :: '/' :: '/' :: (host.toList ++ ':' :: port.repr.toList) := by
      simp [written]
    rw [withScheme_of_scheme (.inl rfl) htext, htext]
  · have htext : (written "https://" host port).toList =
        "https".toList ++ ':' :: '/' :: '/' :: (host.toList ++ ':' :: port.repr.toList) := by
      simp [written]
    rw [withScheme_of_scheme (.inr rfl) htext, htext]

/-! ## Missing ports -/

/-- Placing a host does not ask for a port. -/
theorem place_ne_missingPort (idna : Idna) (raw : String) (u : Url) (host : Url.Host)
    (domain missing : String) :
    place idna raw u host domain ≠ .error (.missingPort missing) := by
  unfold place
  simp only
  split
  · exact nofun
  · split
    · exact nofun
    · split
      · exact nofun
      · split <;> exact nofun

/-- A port is said to be missing if the URL has none. -/
theorem validate_missingPort_iff {idna : Idna} {s : Settings} {raw : String} :
    s.validate idna = .error (.missingPort raw) ↔
      raw = withScheme s.sapControlUrl ∧ ∃ u, Url.read idna raw = .ok u ∧ u.port = none := by
  unfold validate
  simp only
  constructor
  · intro h
    split at h
    next => cases h
    next u hu =>
      split at h
      next hport =>
        cases h
        exact ⟨rfl, u, hu, hport⟩
      next => cases h
      next port host _ _ =>
        split at h
        next e he =>
          cases h
          exact absurd he (place_ne_missingPort _ _ _ _ _ _)
        next => cases h
  · rintro ⟨rfl, u, hu, hport⟩
    simp only [hu, hport]

/-! ## Ports that are kept -/

/-- What becomes of an address of a word and a port, behind the text of a scheme. -/
structure KeepsPort (idna : Idna) (s : Settings) (scheme host : String) (port : Nat) : Prop where
  /-- A word names a domain unless it claims to be encoded. -/
  plain : ¬"xn--".toList <+: host.toList.map Char.toLower → idna.names host.toList = true
  /-- A port that the scheme does not imply is kept. -/
  kept : defaultPorts.lookup scheme ≠ some port → idna.names host.toList = true →
    ∃ v notes, s.validate idna = .ok (v, notes) ∧ v.sapPort = port ∧
      (v.useTls = true ↔ scheme = "https")
  /-- The port that it implies is said to be missing. -/
  implied : defaultPorts.lookup scheme = some port → idna.names host.toList = true →
    s.validate idna = .error (.missingPort (withScheme s.sapControlUrl))
  /-- A word that claims to be encoded and is not is no host. -/
  coded : idna.names host.toList = false →
    s.validate idna = .error
      (.badUrl (withScheme s.sapControlUrl) (Url.UrlError.message .invalidDomain))

theorem keepsPort_of_written (idna : Idna) {s : Settings} (hdomain : s.hostDomain = "")
    {front scheme host : String} (hfront : (front, scheme) ∈ schemeTexts)
    (hhost : IsHostWord host.toList) {port : Nat} (hport : port ≤ 65535)
    (hurl : s.sapControlUrl = written front host port) : KeepsPort idna s scheme host port := by
  have hread := hhost.read_text idna hport (web_of_mem_schemeTexts hfront)
    (withScheme_written hfront hhost port)
  rw [← hurl] at hread
  constructor
  · exact hhost.names_of_not_encoded
  · intro hother hvalid
    rw [if_pos hvalid, if_neg hother] at hread
    have hkept : ¬Appends (.domain (String.ofList (host.toList.map Char.toLower))) s.hostDomain :=
      fun happends => happends.set hdomain
    obtain ⟨warning, hplace⟩ := place_kept hkept idna (withScheme s.sapControlUrl)
      { scheme := scheme, host := some (.domain (String.ofList (host.toList.map Char.toLower)))
        port := some port, path := "/" }
    obtain ⟨notes, hvalidate⟩ :=
      validate_eq_ok_iff.2 ⟨_, port, _, _, hread, rfl, rfl, hplace, rfl⟩
    exact ⟨_, notes, hvalidate, rfl, beq_iff_eq⟩
  · intro himplied hvalid
    rw [if_pos hvalid, if_pos himplied] at hread
    exact validate_missingPort_iff.2 ⟨rfl, _, hread, rfl⟩
  · intro hinvalid
    rw [if_neg (by simp [hinvalid])] at hread
    simp only [validate, hread]

/-- Settings whose port is the one that is written, unless the scheme implies it. -/
structure KeepsPorts (idna : Idna) (s : Settings) : Prop where
  /-- A port behind a host of one word, for every way to write the scheme. -/
  word : s.hostDomain = "" → ∀ front scheme host port, (front, scheme) ∈ schemeTexts →
    IsHostWord host.toList → 1 ≤ port → port ≤ 65535 →
    s.sapControlUrl = written front host port → KeepsPort idna s scheme host port
  /-- A port is said to be missing only if the address names none but the one that its scheme
  implies. -/
  missing : ∀ raw, s.validate idna = .error (.missingPort raw) → raw = withScheme s.sapControlUrl ∧
    ∀ scheme port, scheme = "http" ∨ scheme = "https" → NamesPort raw scheme port →
      defaultPorts.lookup scheme = some port

theorem keepsPorts (idna : Idna) (s : Settings) : KeepsPorts idna s where
  word hdomain front scheme host port hfront hhost _ hport hurl :=
    keepsPort_of_written idna hdomain hfront hhost hport hurl
  missing raw h := by
    obtain ⟨hraw, u, hread, hnone⟩ := validate_missingPort_iff.1 h
    refine ⟨hraw, fun scheme port hscheme hnames => ?_⟩
    have hport := Url.port_of_namesPort hscheme hnames hread
    rw [hnone] at hport
    by_contra hother
    rw [if_neg hother] at hport
    cases hport

/-- The port that a scheme implies is named by the address, and is said to be missing. -/
theorem implied_port_refused :
    ∃ s : Settings, s.hostDomain = "" ∧ s.sapControlUrl = written "" "sapci" 80 ∧
      IsHostWord "sapci".toList ∧ NamesPort (withScheme s.sapControlUrl) "http" 80 ∧
      ∀ idna, s.validate idna = .error (.missingPort "http://sapci:80") := by
  refine ⟨{ sapControlUrl := "sapci:80" }, rfl, by decide, ?_, ?_, fun _ => by rfl⟩
  · exact ⟨⟨'s', "apci".toList, by decide, by decide⟩, List.all_eq_true.1 (by decide)⟩
  · exact ⟨['/', '/'], "sapci".toList, ['8', '0'], [], by decide, by simp,
      by simp [Url.endsAuthority], by simp, by simp, by decide, by simp⟩

end SapMonitor.Settings
