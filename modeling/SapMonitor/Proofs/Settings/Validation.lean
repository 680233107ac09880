import SapMonitor.Proofs.Settings.Addresses
import SapMonitor.Url.Latin

/-!
# What validated settings agree on

Validated settings hold an address and what was derived from it.  The address is read back with the
kind of connection, the port and the host that the settings name.  A domain that is appended to a
host of one word is the exception: the settings keep it as it was set, the address has it in the
form of a host.

Main results:

- `validate_eq_ok_iff`: what validated settings are made of.
- `Appends.domain_eq_iff`: an appended domain is kept as it was set exactly if it is plain.
- `derived_of_validate`: validated settings are derived from a URL, whose host they name.
- `Derived.validate`: what a second validation changes.
- `validate_agrees`: the derived fields agree with the address, and validation settles, unless a
  domain is appended that is not plain.
-/

namespace SapMonitor.Settings

/-! ## Placing -/

/-- Whether the domain that is set is appended to the host: its name has one word. -/
structure Appends (host : Url.Host) (domain : String) : Prop where
  name : host.isAddress = false
  word : domainOf? host.text = none
  set : domain ≠ ""

/-- The domain that settings end up with if none is appended. -/
def ownDomain (host : Url.Host) (domain : String) : String :=
  if host.isAddress then domain else (domainOf? host.text).getD domain

/-- The host as it is shown, with its domain. -/
theorem place_kept {host : Url.Host} {domain : String} (h : ¬Appends host domain)
    (idna : Url.Idna) (raw : String) (u : Url) :
    ∃ warning, place idna raw u host domain = .ok ⟨host.text, ownDomain host domain, u, warning⟩ := by
  unfold place ownDomain
  by_cases haddress : host.isAddress = true
  · simp [haddress]
  · simp only [haddress, Bool.false_eq_true, if_false]
    cases hown : domainOf? host.text with
    | some own => exact ⟨_, rfl⟩
    | none =>
      have hunset : domain = "" := by
        by_contra hset
        exact h ⟨by simpa using haddress, hown, hset⟩
      simp [hunset]

theorem place_appended {idna : Url.Idna} {host : Url.Host} {domain : String}
    (h : Appends host domain) {raw : String} {u : Url} {p : Placement}
    (hplace : place idna raw u host domain = .ok p) :
    ∃ u', u.setHost idna (host.text ++ "." ++ domain) = .ok u' ∧
      p = ⟨host.text ++ "." ++ domain, domain, u', none⟩ := by
  unfold place at hplace
  simp only [h.name, h.word, Bool.false_eq_true, if_false] at hplace
  rw [if_neg (by simpa using h.set)] at hplace
  cases hset : u.setHost idna (host.text ++ "." ++ domain) with
  | error e =>
    rw [hset] at hplace
    cases hplace
  | ok u' =>
    rw [hset] at hplace
    exact ⟨u', rfl, (Except.ok.inj hplace).symm⟩

/-- The own domain of a host stays. -/
theorem ownDomain_ownDomain (host : Url.Host) (domain : String) :
    ownDomain host (ownDomain host domain) = ownDomain host domain := by
  unfold ownDomain
  by_cases haddress : host.isAddress = true
  · simp [haddress]
  · cases hown : domainOf? host.text <;> simp [haddress]

theorem not_appends_ownDomain {host : Url.Host} {domain : String} (h : ¬Appends host domain) :
    ¬Appends host (ownDomain host domain) := by
  rintro ⟨hname, hword, hset⟩
  apply h
  refine ⟨hname, hword, ?_⟩
  simpa [ownDomain, hname, hword] using hset

/-! ## A host with an appended domain -/

/-- Whether a domain is in the form that a URL gives it: in ASCII and in lower case, without codes
and without a colon. -/
def PlainDomain (domain : String) : Prop :=
  ∀ c ∈ domain.toList, c.toNat ≤ 127 ∧ c.toLower = c ∧ c ≠ '%' ∧ c ≠ ':'

variable {idna : Url.Idna}

theorem domainOf?_append {word rest : List Char} (h : '.' ∉ word) {name : String}
    (hname : name.toList = word ++ '.' :: rest) : domainOf? name = some (String.ofList rest) := by
  have hall : ∀ c ∈ word, decide (c ≠ '.') = true := by
    intro c hc
    simpa using ne_of_mem_of_not_mem hc h
  unfold domainOf?
  rw [hname, List.dropWhile_append_of_pos hall, List.dropWhile_cons_of_neg (by simp)]

theorem dot_not_mem_of_word {name : String} (h : domainOf? name = none) : '.' ∉ name.toList := by
  unfold domainOf? at h
  split at h
  · rename_i hdrop
    intro hmem
    have := List.dropWhile_eq_nil_iff.1 hdrop '.' hmem
    simp at this
  · cases h

/-- A plain domain is kept by a URL as it is, behind a word. -/
theorem eq_of_plainDomain {word rest : List Char} {domain : String} (hword : Url.IsName idna word)
    (hplain : PlainDomain domain)
    (h : idna.domain? (Url.decodeBytes (word ++ '.' :: domain.toList)) =
      some (word ++ '.' :: rest)) : rest = domain.toList := by
  obtain ⟨hallowed, hlower⟩ := hword.dotted
  have hassoc : word ++ '.' :: domain.toList = (word ++ ['.']) ++ domain.toList := by simp
  have hsame : word ++ '.' :: rest = word ++ '.' :: domain.toList := by
    apply Url.eq_of_plain_name h
    · rw [hassoc, List.forall_mem_append]
      exact ⟨Url.ascii_of_all_allowed hallowed, fun c hc => (hplain c hc).1⟩
    · rw [hassoc, List.forall_mem_append]
      exact ⟨fun c hc => Url.ne_of_allowed (hallowed c hc) (by decide),
        fun c hc => (hplain c hc).2.2.1⟩
    · rw [hassoc, List.forall_mem_append]
      exact ⟨hlower, fun c hc => (hplain c hc).2.1⟩
  exact (List.cons.inj (List.append_cancel_left hsame)).2

/-- Only a plain domain is part of a name. -/
theorem plainDomain_of_isName {front : List Char} {domain : String}
    (h : Url.IsName idna (front ++ domain.toList)) : PlainDomain domain := by
  intro c hc
  have hmem : c ∈ front ++ domain.toList := List.mem_append_right _ hc
  exact ⟨Url.ascii_of_all_allowed h.allowed c hmem, h.lower c hmem,
    Url.ne_of_allowed (h.allowed c hmem) (by decide),
    Url.ne_of_allowed (h.allowed c hmem) (by decide)⟩

/-- Appended to a word, a domain makes a name whose own domain is the one that was set exactly if
that is plain. -/
theorem Appends.host_form {host h : Url.Host} {domain : String} (happ : Appends host domain)
    (hh : host.Proper idna)
    (hread : Url.Host.read idna (Url.namedPart (host.text ++ "." ++ domain).toList) = .ok h) :
    ∃ rest, h.isAddress = false ∧ h.text.toList = host.text.toList ++ '.' :: rest ∧
      (rest = domain.toList ↔ PlainDomain domain) := by
  have hdot := dot_not_mem_of_word happ.word
  have haddress := happ.name
  cases hh with
  | ipv4 _ => cases haddress
  | ipv6 _ => cases haddress
  | @domain word hword hne hnumber =>
    rw [Url.Host.text, String.toList_ofList] at hdot ⊢
    have hfull : ((Url.Host.domain (String.ofList word)).text ++ "." ++ domain).toList =
        (word ++ ['.']) ++ domain.toList := by
      simp [Url.Host.text]
    rw [hfull, Url.namedPart_append (by simp) hword.dotted.1, List.append_assoc,
      List.singleton_append] at hread
    obtain ⟨rest, rfl, hname⟩ := Url.Host.read_word hword hdot hnumber hread
    refine ⟨rest, rfl, by simp [Url.Host.text], ?_, fun hplain => ?_⟩
    · rintro rfl
      have hvalid := Url.Idna.isName_of_domain? hname
      rw [← List.singleton_append, ← List.append_assoc] at hvalid
      exact plainDomain_of_isName hvalid
    · have htake : domain.toList.takeWhile (· ≠ ':') = domain.toList := by
        rw [List.takeWhile_eq_self_iff]
        intro c hc
        exact decide_eq_true (hplain c hc).2.2.2
      rw [htake] at hname
      exact eq_of_plainDomain hword hplain hname

/-- The host and the domain are as they were set exactly if the domain is plain. -/
theorem Appends.domain_eq_iff {host h : Url.Host} {domain : String} (happ : Appends host domain)
    (hh : host.Proper idna)
    (hread : Url.Host.read idna (Url.namedPart (host.text ++ "." ++ domain).toList) = .ok h) :
    ¬Appends h domain ∧ (host.text ++ "." ++ domain = h.text ↔ PlainDomain domain) ∧
      (ownDomain h domain = domain ↔ PlainDomain domain) := by
  obtain ⟨rest, haddress, htext, hplain⟩ := happ.host_form hh hread
  have hown : domainOf? h.text = some (String.ofList rest) :=
    domainOf?_append (dot_not_mem_of_word happ.word) htext
  have hdomain : ownDomain h domain = String.ofList rest := by simp [ownDomain, haddress, hown]
  have hfull : (host.text ++ "." ++ domain).toList = host.text.toList ++ '.' :: domain.toList := by
    simp
  refine ⟨fun hagain => ?_, ?_, ?_⟩
  · rw [hagain.word] at hown
    cases hown
  · rw [← hplain, ← String.toList_inj, hfull, htext, List.append_cancel_left_eq, List.cons.injEq,
      eq_self, true_and]
    exact eq_comm
  · rw [← hplain, hdomain, ← String.toList_inj, String.toList_ofList]

/-! ## Validating -/

/-- The settings with what is derived from the URL of a scheme and a port. -/
def placed (s : Settings) (scheme : String) (port : Nat) (p : Placement) : Settings :=
  { s with
    sapControlUrl := dropSlashes p.url.text
    hostDomain := p.domain
    sapHost := p.host
    sapPort := port
    useTls := scheme == "https"
    cacheTtl := (clampTtl s.cacheTtl s.cacheErrorTtl).1
    cacheErrorTtl := (clampTtl s.cacheTtl s.cacheErrorTtl).2 }

/-- What validated settings are made of. -/
theorem validate_eq_ok_iff {s v : Settings} :
    (∃ notes, s.validate idna = .ok (v, notes)) ↔ ∃ u port host p,
      Url.read idna (withScheme s.sapControlUrl) = .ok u ∧ u.port = some port ∧ u.host = some host ∧
      place idna (withScheme s.sapControlUrl) u host s.hostDomain = .ok p ∧
      v = s.placed u.scheme port p := by
  constructor
  · rintro ⟨notes, h⟩
    simp only [validate] at h
    split at h
    · cases h
    · rename_i u hu
      split at h
      · cases h
      · cases h
      · rename_i port host hport hhost
        split at h
        · cases h
        · rename_i p hp
          cases h
          exact ⟨u, port, host, p, hu, hport, hhost, hp, rfl⟩
  · rintro ⟨u, port, host, p, hu, hport, hhost, hp, rfl⟩
    simp only [validate, hu, hport, hhost, hp]
    exact ⟨_, rfl⟩

/-- Lifetimes are repaired once and for all. -/
theorem clampTtl_clampTtl (ttl errorTtl : Time.Span) :
    clampTtl (clampTtl ttl errorTtl).1 (clampTtl ttl errorTtl).2 = clampTtl ttl errorTtl := by
  have hle := clampTtl_le ttl errorTtl
  have herror := clampTtl_pos ttl errorTtl
  generalize clampTtl ttl errorTtl = repaired at hle herror ⊢
  obtain ⟨answer, failure⟩ := repaired
  unfold clampTtl
  simp only at hle herror ⊢
  rw [Time.Span.orElse_of_pos herror, Time.Span.orElse_of_pos (herror.trans_le hle),
    if_neg (not_lt.2 hle)]

/-- The settings with the host that their address has. -/
def withHost (s : Settings) (host : Url.Host) : Settings :=
  { s with sapHost := host.text, hostDomain := ownDomain host s.hostDomain }

/-- Settings derived from a URL and its host, as validation leaves them. -/
structure Derived (idna : Url.Idna) (v : Settings) (u : Url) (host : Url.Host) : Prop where
  proper : u.Proper idna
  url : v.sapControlUrl = dropSlashes u.text
  port : u.port = some v.sapPort
  named : u.host = some host
  tls : v.useTls = (u.scheme == "https")
  ttls : (v.cacheTtl, v.cacheErrorTtl) = clampTtl v.cacheTtl v.cacheErrorTtl
  kept : ¬Appends host v.hostDomain

section Derived

variable {v : Settings} {u : Url} {host : Url.Host}

/-- The parts of the URL that the address is read back as. -/
theorem Derived.read (d : Derived idna v u host) :
    Url.read idna v.sapControlUrl = .ok u.trimmed.rooted ∧
      (u.trimmed.rooted.scheme = "https" ↔ v.useTls = true) ∧
      u.trimmed.rooted.port = some v.sapPort ∧ u.trimmed.rooted.host = some host := by
  obtain ⟨hscheme, -, -, hhost, hport⟩ := u.trimmed_authority
  refine ⟨?_, ?_, hport.trans d.port, hhost.trans d.named⟩
  · rw [d.url]
    exact d.proper.read_dropSlashes.1
  · have hsame : u.trimmed.rooted.scheme = u.scheme := hscheme
    rw [hsame, d.tls, beq_iff_eq]

/-- Another validation changes the host and its domain only. -/
theorem Derived.validate (d : Derived idna v u host) :
    ∃ notes, v.validate idna = .ok (v.withHost host, notes) := by
  obtain ⟨hread, -, hport, hhost⟩ := d.read
  obtain ⟨warning, hplace⟩ := place_kept d.kept idna v.sapControlUrl u.trimmed.rooted
  have hraw : withScheme v.sapControlUrl = v.sapControlUrl := by
    rw [d.url, d.proper.withScheme_dropSlashes]
  have hscheme : u.trimmed.rooted.scheme = u.scheme := u.trimmed_authority.1
  have hurl : dropSlashes u.trimmed.rooted.text = v.sapControlUrl := by
    rw [d.url, d.proper.read_dropSlashes.2]
  apply validate_eq_ok_iff.2
  refine ⟨u.trimmed.rooted, v.sapPort, host,
    ⟨host.text, ownDomain host v.hostDomain, u.trimmed.rooted, warning⟩, ?_, hport, hhost, ?_, ?_⟩
  · rw [hraw, hread]
  · rw [hraw, hplace]
  · simp only [placed, withHost, hurl, hscheme, ← d.tls, ← d.ttls]

/-- What another validation leaves is derived from the same URL. -/
theorem Derived.withHost (d : Derived idna v u host) : Derived idna (v.withHost host) u host :=
  { proper := d.proper, url := d.url, port := d.port, named := d.named, tls := d.tls, ttls := d.ttls
    kept := not_appends_ownDomain d.kept }

theorem withHost_withHost : (v.withHost host).withHost host = v.withHost host := by
  simp [withHost, ownDomain_ownDomain]

theorem withHost_eq_iff :
    v.withHost host = v ↔ v.sapHost = host.text ∧ ownDomain host v.hostDomain = v.hostDomain := by
  constructor
  · intro h
    exact ⟨(congrArg sapHost h).symm, congrArg hostDomain h⟩
  · rintro ⟨hhost, hdomain⟩
    simp [withHost, ← hhost, hdomain]

end Derived

/-! ## Agreement -/

/-- Whether validation appends the domain that is set to the host of the address. -/
def AppendsDomain (s : Settings) (idna : Url.Idna) : Prop :=
  ∃ u host, Url.read idna (withScheme s.sapControlUrl) = .ok u ∧ u.host = some host ∧
    Appends host s.hostDomain

theorem derived_of_placed {s : Settings} {u : Url} {port : Nat} {host : Url.Host} {p : Placement}
    (hproper : p.url.Proper idna) (hscheme : p.url.scheme = u.scheme)
    (hport : p.url.port = some port)
    (hhost : p.url.host = some host) (hkept : ¬Appends host p.domain) :
    Derived idna (s.placed u.scheme port p) p.url host :=
  { proper := hproper, url := rfl, port := hport, named := hhost
    tls := by rw [hscheme]; rfl
    ttls := (clampTtl_clampTtl s.cacheTtl s.cacheErrorTtl).symm
    kept := hkept }

/-- Validated settings are derived from a URL, whose host they name. -/
theorem derived_of_validate {s v : Settings} {notes : List Note}
    (h : s.validate idna = .ok (v, notes)) :
    ∃ u host, Derived idna v u host ∧
      (∀ u' : Url, u'.host = some host → u'.setHost idna v.sapHost = .ok u') ∧
      (v.sapHost = host.text ↔ (s.AppendsDomain idna → PlainDomain s.hostDomain)) ∧
      (ownDomain host v.hostDomain = v.hostDomain ↔
        (s.AppendsDomain idna → PlainDomain s.hostDomain)) := by
  obtain ⟨u, port, host, p, hu, hport, hhost, hp, rfl⟩ := validate_eq_ok_iff.1 ⟨notes, h⟩
  have hproper : u.Proper idna := proper_of_withScheme hu hport
  have hform : host.Proper idna := by
    obtain ⟨host', hhost', hform⟩ := hproper.host
    obtain rfl : host' = host := Option.some.inj (hhost'.symm.trans hhost)
    exact hform
  have happends : s.AppendsDomain idna ↔ Appends host s.hostDomain := by
    constructor
    · rintro ⟨u', host', hu', hhost', happ⟩
      obtain rfl : u = u' := Except.ok.inj (hu.symm.trans hu')
      obtain rfl : host = host' := Option.some.inj (hhost.symm.trans hhost')
      exact happ
    · exact fun happ => ⟨u, host, hu, hhost, happ⟩
  rw [happends]
  by_cases happ : Appends host s.hostDomain
  · -- the domain is appended, and the host of the URL is what the name denotes
    obtain ⟨u', hset, rfl⟩ := place_appended happ hp
    obtain ⟨named, hread, rfl⟩ := Url.setHost_eq_ok_iff.1 hset
    obtain ⟨hkept, htext, hdomain⟩ := happ.domain_eq_iff hform hread
    refine ⟨_, named, derived_of_placed (hproper.withHost (Url.Host.proper_of_read hread)) rfl hport
      rfl hkept, ?_, ?_, ?_⟩
    · rintro u' hu'
      exact Url.setHost_eq_ok_iff.2 ⟨named, hread, by rw [← hu']⟩
    · simpa [happ, placed] using htext
    · simpa [happ, placed] using hdomain
  · obtain ⟨warning, hkept⟩ := place_kept happ idna (withScheme s.sapControlUrl) u
    obtain rfl := Except.ok.inj (hp.symm.trans hkept)
    refine ⟨u, host, derived_of_placed hproper rfl hport hhost (not_appends_ownDomain happ), ?_, ?_,
      ?_⟩
    · intro u' hu'
      have hset := hform.setHost_text u'
      rwa [← hu'] at hset
    · simp [happ, placed]
    · simp [happ, placed, ownDomain_ownDomain]

/-- The derived fields agree with the address, and validation settles, unless a domain is appended
that is not plain. -/
theorem validate_agrees {idna : Url.Idna} {s v : Settings} {notes : List Note}
    (h : s.validate idna = .ok (v, notes)) :
    ∃ u host, Url.read idna v.sapControlUrl = .ok u ∧ (u.scheme = "https" ↔ v.useTls = true) ∧
      u.port = some v.sapPort ∧ u.host = some host ∧ u.setHost idna v.sapHost = .ok u ∧
      (∃ notes, v.validate idna = .ok (v.withHost host, notes)) ∧
      (∃ notes, (v.withHost host).validate idna = .ok (v.withHost host, notes)) ∧
      (v.sapHost = host.text ↔ (s.AppendsDomain idna → PlainDomain s.hostDomain)) ∧
      (v.withHost host = v ↔ (s.AppendsDomain idna → PlainDomain s.hostDomain)) := by
  obtain ⟨u, host, hderived, hset, htext, hdomain⟩ := derived_of_validate h
  obtain ⟨hread, htls, hport, hhost⟩ := hderived.read
  have hagain := hderived.withHost.validate
  rw [withHost_withHost] at hagain
  refine ⟨u.trimmed.rooted, host, hread, htls, hport, hhost, hset _ hhost, hderived.validate, hagain,
    htext, ?_⟩
  rw [withHost_eq_iff, htext, hdomain, and_self_iff]

/-- Settings for a host of one word. -/
def oneWord (domain : String) : Settings :=
  { sapControlUrl := "sapci:50013", hostDomain := domain }

/-- What validation makes of them if the domain is in ASCII. -/
def oneWordPlaced (domain host : String) : Settings :=
  { oneWord domain with
    sapControlUrl := "http://sapci.corp.local:50013"
    sapHost := host
    sapPort := 50013 }

/-- The host of the address is encoded if the domain has a letter beyond ASCII. -/
theorem validate_agrees_encoded :
    ∃ v notes, (oneWord "bücher.example").validate .latin = .ok (v, notes) ∧
      (v.sapControlUrl, v.sapHost) =
        ("http://sapci.xn--bcher-kva.example:50013", "sapci.bücher.example") ∧
    ∃ u host, Url.read .latin v.sapControlUrl = .ok u ∧ (u.scheme = "https" ↔ v.useTls = true) ∧
      u.port = some v.sapPort ∧ u.host = some host ∧ u.setHost .latin v.sapHost = .ok u ∧
      (∃ notes, v.validate .latin = .ok (v.withHost host, notes)) ∧
      (∃ notes, (v.withHost host).validate .latin = .ok (v.withHost host, notes)) ∧
      (v.sapHost = host.text ↔
        ((oneWord "bücher.example").AppendsDomain .latin → PlainDomain "bücher.example")) ∧
      (v.withHost host = v ↔
        ((oneWord "bücher.example").AppendsDomain .latin → PlainDomain "bücher.example")) := by
  have hvalues : ((oneWord "bücher.example").validate .latin).toOption.map
      (fun x => (x.1.sapControlUrl, x.1.sapHost)) =
        some ("http://sapci.xn--bcher-kva.example:50013", "sapci.bücher.example") := by
    decide +kernel
  cases hvalid : (oneWord "bücher.example").validate .latin with
  | error e =>
    rw [hvalid] at hvalues
    cases hvalues
  | ok x =>
    rw [hvalid] at hvalues
    exact ⟨x.1, x.2, rfl, Option.some.inj hvalues, validate_agrees hvalid⟩

/-- A domain in upper case is kept as it was set, the address has it in lower case, and the next
validation takes it from there. -/
theorem upperCase_domain_disagrees :
    ∃ v notes, (oneWord "CORP.LOCAL").validate .latin = .ok (v, notes) ∧
      (¬∃ u host, Url.read .latin v.sapControlUrl = .ok u ∧ u.host = some host ∧
        v.sapHost = host.text) ∧
      ¬∃ notes, v.validate .latin = .ok (v, notes) := by
  have hread : Url.read .latin "http://sapci.corp.local:50013" = .ok
      { scheme := "http", host := some (.domain "sapci.corp.local"), port := some 50013
        path := "/" } := by rfl
  have hagain : (oneWordPlaced "CORP.LOCAL" "sapci.CORP.LOCAL").validate .latin = .ok
      (oneWordPlaced "corp.local" "sapci.corp.local",
        [⟨.warning, "host_domain parameter is overwritten by sap_control_url: corp.local"⟩]) := by rfl
  refine ⟨oneWordPlaced "CORP.LOCAL" "sapci.CORP.LOCAL", [], by rfl, ?_, ?_⟩
  · rintro ⟨u, host, hu, hhost, htext⟩
    obtain rfl := Except.ok.inj (hread.symm.trans hu)
    obtain rfl := Option.some.inj hhost
    exact absurd htext (by decide)
  · rintro ⟨notes, hsame⟩
    have hhost : "sapci.corp.local" = "sapci.CORP.LOCAL" :=
      congrArg (fun w => w.1.sapHost) (Except.ok.inj (hagain.symm.trans hsame))
    exact absurd hhost (by decide)

end SapMonitor.Settings
