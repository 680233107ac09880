import SapMonitor.Decimal.Integer
import SapMonitor.Settings.Basic
import SapMonitor.Yaml.Reader

/-!
# Settings from a document

A settings file is a mapping from option names to scalars.  Options that it does
not name keep their defaults, names that are no options are ignored, and an
option may be named once only.
-/

namespace SapMonitor.Settings

open Time (Span)
open Yaml (Node)

/-! ## Scalars as values -/

/-- The text of a scalar. -/
def textOf? : Node → Option String
  | .scalar text _ => some text
  | _ => none

/-- The truth value of a plain scalar. -/
def boolOf? : Node → Option Bool
  | .scalar text true =>
    if ["true", "True", "TRUE"].contains text then some true
    else if ["false", "False", "FALSE"].contains text then some false
    else none
  | _ => none

/-- The number written in a base. -/
def digitsIn? (base : Nat) (cs : List Char) : Option Nat :=
  if cs.isEmpty then none
  else
    cs.foldl (fun acc c => do
      let n ← acc
      let d ← Text.hexDigit? c
      if d < base then some (base * n + d) else none) (some 0)

/-- The number written by a plain scalar: decimal without leading zeros, or in
another base after `0x`, `0o` or `0b`; a plus sign may precede. -/
def readCount? (cs : List Char) : Option Nat :=
  let body := match cs with
    | '+' :: rest => rest
    | rest => rest
  let based := match body with
    | '0' :: 'x' :: rest => digitsIn? 16 rest
    | '0' :: 'o' :: rest => digitsIn? 8 rest
    | '0' :: 'b' :: rest => digitsIn? 2 rest
    | _ => none
  match based with
  | some n => some n
  | none =>
    if 1 < body.length && body.head? = some '0' && body.all Char.isDigit then none
    else Decimal.readNat? body

/-- A number of a plain scalar below a limit. -/
def countOf? (limit : Nat) : Node → Option Nat
  | .scalar text true => (readCount? text.toList).filter (· < limit)
  | _ => none

/-- A port number. -/
def portOf? : Node → Option Nat :=
  countOf? 65536

/-- A number of at most 64 bits. -/
def sizeOf? : Node → Option Nat :=
  countOf? 18446744073709551616

/-- A span of time. -/
def spanOf? (n : Node) : Option Span := do
  let text ← textOf? n
  (Time.readSpan text.toList).toOption

/-- The age of the oldest accepted alert. -/
def maxAgeOf? (n : Node) : Option (Option Span) := do
  let text ← textOf? n
  (readMaxAge text).toOption

/-! ## Entries -/

/-- The settings after an entry of the document; `none` if the value does not
fit the option.  Names that are no options change nothing. -/
def set? (s : Settings) (name : String) (n : Node) : Option Settings :=
  match name with
  | "address" => (textOf? n).map fun v => { s with address := v }
  | "port" => (portOf? n).map fun v => { s with port := v }
  | "log_level" => (textOf? n).map fun v => { s with logLevel := v }
  | "sap_control_url" => (textOf? n).map fun v => { s with sapControlUrl := v }
  | "sap_control_access_point" => (textOf? n).map fun v => { s with accessPoint := v }
  | "host_domain" => (textOf? n).map fun v => { s with hostDomain := v }
  | "sap_control_user" => (textOf? n).map fun v => { s with user := v }
  | "sap_control_password" => (textOf? n).map fun v => { s with password := v }
  | "tls_skip_verify" => (boolOf? n).map fun v => { s with tlsSkipVerify := v }
  | "sap_sid" => (textOf? n).map fun v => { s with sid := v }
  | "cache_ttl" => (spanOf? n).map fun v => { s with cacheTtl := v }
  | "cache_error_ttl" => (spanOf? n).map fun v => { s with cacheErrorTtl := v }
  | "cache_cleanup_interval" => (spanOf? n).map fun v => { s with cacheCleanupInterval := v }
  | "scrape_timeout" => (spanOf? n).map fun v => { s with scrapeTimeout := v }
  | "fanout_limit" => (sizeOf? n).map fun v => { s with fanoutLimit := v }
  | "collect_enqueueserver" => (boolOf? n).map fun v => { s with collectEnqueueserver := v }
  | "collect_dispatcher" => (boolOf? n).map fun v => { s with collectDispatcher := v }
  | "collect_workprocess" => (boolOf? n).map fun v => { s with collectWorkprocess := v }
  | "collect_alerts" => (boolOf? n).map fun v => { s with collectAlerts := v }
  | "send_alerts_to_prom" => (boolOf? n).map fun v => { s with sendAlertsToProm := v }
  | "alert_samples_max_age" => (maxAgeOf? n).map fun v => { s with alertMaxAge := v }
  | "loki_url" => (textOf? n).map fun v => { s with lokiUrl := v }
  | "loki_name" => (textOf? n).map fun v => { s with lokiName := v }
  | "loki_tenant_id" => (textOf? n).map fun v => { s with lokiTenant := v }
  | "loki_batch_wait" => (spanOf? n).map fun v => { s with lokiBatchWait := v }
  | "loki_batch_entries_number" => (sizeOf? n).map fun v => { s with lokiBatchEntries := v }
  | "loki_http_timeout" => (spanOf? n).map fun v => { s with lokiTimeout := v }
  | "loki_time_offset" => (textOf? n).map fun v => { s with lokiTimeOffset := v }
  | _ => some s

/-- The names of the options of a document. -/
def optionNames : List String := [
  "address", "port", "log_level", "sap_control_url", "sap_control_access_point", "host_domain",
  "sap_control_user", "sap_control_password", "tls_skip_verify", "sap_sid", "cache_ttl",
  "cache_error_ttl", "cache_cleanup_interval", "scrape_timeout", "fanout_limit",
  "collect_enqueueserver", "collect_dispatcher", "collect_workprocess", "collect_alerts",
  "send_alerts_to_prom", "alert_samples_max_age", "loki_url", "loki_name", "loki_tenant_id",
  "loki_batch_wait", "loki_batch_entries_number", "loki_http_timeout", "loki_time_offset"]

/-- The settings after the entries of a document.  A name must be a scalar, and
an option may be named once only. -/
def ofEntries? (seen : List String) (s : Settings) : List (Node × Node) → Option Settings
  | [] => some s
  | (key, value) :: rest =>
    match textOf? key with
    | none => none
    | some name =>
      if optionNames.contains name && seen.contains name then none
      else
        match s.set? name value with
        | none => none
        | some s => ofEntries? (name :: seen) s rest

/-- The settings of a document. -/
def ofNode? : Node → Option Settings
  | .mapping entries => ofEntries? [] {} entries
  | _ => none

/-- The settings of a file's text; a text of white space has the defaults. -/
def ofText? (raw : String) : Option Settings :=
  if raw.toList.all Text.isBlank then some {}
  else
    match Yaml.readDocument raw.toList with
    | none => none
    | some none => some {}
    | some (some (.scalar "" true)) => some {}
    | some (some n) => ofNode? n

end SapMonitor.Settings
