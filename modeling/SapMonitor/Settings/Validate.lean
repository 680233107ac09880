import SapMonitor.Settings.Basic
import SapMonitor.Url.Reader
import SapMonitor.Work

/-!
# Validated settings

Validation reads the address of the service.  It requires a port, adds the
domain to a host of one word, derives the host, the port and the kind of
connection, and repairs the lifetimes of cached values.

Main results:

- `clampTtl_pos` and `clampTtl_le`: after validation a failure is cached for
  some time, and never longer than an answer.
- `ttls_of_validate`: the lifetimes of validated settings.
-/

namespace SapMonitor.Settings

open Time (Span)

/-! ## Lifetimes -/

/-- The lifetimes of answers and failures: zero stands for the default, and a
failure lives no longer than an answer. -/
def clampTtl (ttl errorTtl : Span) : Span × Span :=
  let ttl := ttl.orElse answerLifetime
  let errorTtl := errorTtl.orElse failureLifetime
  (ttl, if ttl.nanos < errorTtl.nanos then ttl else errorTtl)

theorem orElse_pos {s d : Span} (h : 0 < d.nanos) : 0 < (s.orElse d).nanos := by
  unfold Span.orElse Span.isZero
  split
  · exact h
  · rename_i hs
    simp only [beq_iff_eq] at hs
    omega

/-- A failure is cached for some time. -/
theorem clampTtl_pos (ttl errorTtl : Span) : 0 < (clampTtl ttl errorTtl).2.nanos := by
  have h1 : 0 < (ttl.orElse answerLifetime).nanos := orElse_pos (by decide)
  have h2 : 0 < (errorTtl.orElse failureLifetime).nanos := orElse_pos (by decide)
  simp only [clampTtl]
  split <;> assumption

/-- A failure lives no longer than an answer. -/
theorem clampTtl_le (ttl errorTtl : Span) :
    (clampTtl ttl errorTtl).2.nanos ≤ (clampTtl ttl errorTtl).1.nanos := by
  simp only [clampTtl]
  split <;> omega

/-! ## The address of the service -/

/-- The address with a scheme in front. -/
def withScheme (raw : String) : String :=
  if "http://".toList.isPrefixOf raw.toList || "https://".toList.isPrefixOf raw.toList then raw
  else "http://" ++ raw

/-- The text without slashes at its end. -/
def dropSlashes (s : String) : String :=
  String.ofList (Text.dropTrailing (· = '/') s.toList)

/-- What follows the first dot of a host name. -/
def domainOf? (name : String) : Option String :=
  match name.toList.dropWhile (· ≠ '.') with
  | [] => none
  | _ :: rest => some (String.ofList rest)

/-- The host, the domain and the URL that settings end up with, and a warning if
the domain is not what was set. -/
structure Placement where
  host : String
  domain : String
  url : Url
  warning : Option String

/-- The placement of a host: a domain in its name wins over the one that was
set, and a host of one word gets the one that was set. -/
def place (idna : Url.Idna) (raw : String) (u : Url) (host : Url.Host) (domain : String) :
    Except SettingsError Placement :=
  let name := host.text
  if host.isAddress then .ok ⟨name, domain, u, none⟩
  else
    match domainOf? name with
    | some own =>
      .ok ⟨name, own, u,
        if domain.isEmpty || domain = own then none
        else some ("host_domain parameter is overwritten by sap_control_url: " ++ own)⟩
    | none =>
      if domain.isEmpty then
        .ok ⟨name, domain, u, some ("host_domain parameter is empty and no domain part in the " ++
          "sap_control_url: " ++ raw)⟩
      else
        let full := name ++ "." ++ domain
        match u.setHost idna full with
        | .ok u => .ok ⟨full, domain, u, none⟩
        | .error e => .error (.badUrl full e.message)

/-- The validated settings and the warnings on the way. -/
def validate (s : Settings) (idna : Url.Idna) : Except SettingsError (Settings × List Note) :=
  let raw := withScheme s.sapControlUrl
  match Url.read idna raw with
  | .error e => .error (.badUrl raw e.message)
  | .ok u =>
    match u.port, u.host with
    | none, _ => .error (.missingPort raw)
    | some _, none => .error (.badUrl raw "no host")
    | some port, some host =>
      match place idna raw u host s.hostDomain with
      | .error e => .error e
      | .ok p =>
        let ttls := clampTtl s.cacheTtl s.cacheErrorTtl
        .ok ({ s with
            sapControlUrl := dropSlashes p.url.text
            hostDomain := p.domain
            sapHost := p.host
            sapPort := port
            useTls := u.scheme == "https"
            cacheTtl := ttls.1
            cacheErrorTtl := ttls.2 },
          p.warning.toList.map fun text => ⟨.warning, text⟩)

/-- The lifetimes of validated settings are repaired. -/
theorem ttls_of_validate {s v : Settings} {idna : Url.Idna} {notes : List Note}
    (h : s.validate idna = .ok (v, notes)) :
    (v.cacheTtl, v.cacheErrorTtl) = clampTtl s.cacheTtl s.cacheErrorTtl := by
  simp only [validate] at h
  split at h
  · cases h
  · split at h
    · cases h
    · cases h
    · split at h
      · cases h
      · cases h
        rfl

end SapMonitor.Settings
