import SapMonitor.Time.Span
import SapMonitor.Time.SpanText
import SapMonitor.Text.Strip

/-!
# Settings

The settings say which system is watched, how it is asked, which metrics are
collected and where alerts are pushed to.  Three further fields are derived
when the settings are validated.
-/

namespace SapMonitor

open Time (Span)

/-! ## Faults -/

/-- Why there are no settings to work with. -/
inductive SettingsError where
  /-- The file cannot be read; the reason is the system's. -/
  | file (path reason : String)
  /-- The file is no document with these settings. -/
  | document (path : String)
  /-- The address of the service is no URL. -/
  | badUrl (url reason : String)
  /-- The address of the service names no port. -/
  | missingPort (url : String)
  /-- A span of time cannot be read. -/
  | span (setting reason : String)
  deriving DecidableEq

/-- The wording of a fault.  The reason why a document is refused is left
out. -/
def SettingsError.message : SettingsError → String
  | file path reason => "error reading config file " ++ path ++ ": " ++ reason
  | document path => "error parsing config file " ++ path
  | badUrl url reason => "could not parse url " ++ url ++ ": " ++ reason
  | missingPort url => "port must be provided for sap_control_url: " ++ url
  | span setting reason => "invalid duration for " ++ setting ++ ": " ++ reason

/-! ## The settings -/

/-- The lifetime of cached answers if none is set. -/
def Settings.answerLifetime : Span := .ofSeconds 30

/-- The lifetime of cached failures if none is set. -/
def Settings.failureLifetime : Span := .ofSeconds 5

/-- The settings of the program, with their defaults. -/
structure Settings where
  address : String := "0.0.0.0"
  port : Nat := 9680
  logLevel : String := "info"
  sapControlUrl : String := "localhost:50013"
  accessPoint : String := "/sap/bc/soap/rfc"
  hostDomain : String := ""
  user : String := ""
  password : String := ""
  tlsSkipVerify : Bool := false
  sid : String := ""
  cacheTtl : Span := Settings.answerLifetime
  cacheErrorTtl : Span := Settings.failureLifetime
  cacheCleanupInterval : Span := .zero
  scrapeTimeout : Span := .ofSeconds 30
  fanoutLimit : Nat := 16
  collectEnqueueserver : Bool := true
  collectDispatcher : Bool := true
  collectWorkprocess : Bool := true
  collectAlerts : Bool := true
  sendAlertsToProm : Bool := false
  alertMaxAge : Option Span := some (.ofSeconds 86400)
  lokiUrl : String := ""
  lokiName : String := "sap_alerts"
  lokiTenant : String := "fake"
  lokiBatchWait : Span := .ofMillis 100
  lokiBatchEntries : Nat := 32
  lokiTimeout : Span := .ofMillis 1000
  lokiTimeOffset : String := "+03:00"
  /-- The host of the service, once validated. -/
  sapHost : String := ""
  /-- The port of the service, once validated. -/
  sapPort : Nat := 0
  /-- Whether the service is asked over a secured connection, once validated. -/
  useTls : Bool := false

namespace Settings

/-- The age of the oldest accepted alert: none, if the text begins with a minus
sign. -/
def readMaxAge (raw : String) : Except SettingsError (Option Span) :=
  match Text.strip Text.isBlank raw.toList with
  | '-' :: _ => .ok none
  | cs =>
    match Time.readSpan cs with
    | .ok s => .ok (some s)
    | .error e => .error (.span "alert_samples_max_age" e.message)

/-- The settings as the journal may show them. -/
def masked (s : Settings) : Settings :=
  { s with password := if s.password.isEmpty then s.password else "***" }

end Settings

end SapMonitor
