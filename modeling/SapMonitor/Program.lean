import SapMonitor.CommandLine.Reader
import SapMonitor.Journal
import SapMonitor.Pages
import SapMonitor.Settings.Load
import SapMonitor.Remote.Soap

/-!
# The program

The program reads its command line and its settings, asks for the directory
once, and then serves pages until it is stopped; last it pushes the log lines
that still wait.
-/

namespace SapMonitor.Program

open CommandLine (Stop)
open Http (Network)
open LogStore (ClientSettings)
open Settings (FileSource)
open Time (Moment)

/-! ## Before serving -/

/-- The name of the program and its version. -/
def versionText : String := "sap_system_exporter 0.1.0\n"

/-- The text that explains the command line. -/
def helpText : String :=
  "Usage: sap_system_exporter [OPTIONS]\n\nOptions:\n" ++
    String.join (CommandLine.Flag.all.map fun f => "      --" ++ f.long ++ " <VALUE>\n") ++
    "  -h, --help\n  -V, --version\n"

/-- How the program begins: it stops at once, complains about its settings, or
has settings to serve with. -/
inductive Beginning where
  | stopped (reason : Stop)
  | refused (fault : SettingsError)
  | ready (settings : Settings)

/-- The beginning of the program, and the notes on the way. -/
def begin (idna : Url.Idna) (args : List String) (environment : String → Option String)
    (files : FileSource) : Beginning × List Note :=
  match CommandLine.read args environment with
  | .error reason => (.stopped reason, [])
  | .ok a =>
    match Settings.load idna files a with
    | (.error fault, notes) => (.refused fault, notes)
    | (.ok s, notes) => (.ready s, notes)

/-- The status that the program ends with when it serves nothing. -/
def Beginning.exitCode : Beginning → Nat
  | stopped .help => 0
  | stopped .version => 0
  | stopped _ => 2
  | refused _ => 1
  | ready _ => 0

/-- The line about settings that are refused. -/
def refusalLine (fault : SettingsError) : String :=
  "Configuration error: " ++ fault.message

/-! ## Serving -/

variable {σ : Type}

/-- The parts of a running program. -/
structure Running (σ : Type) where
  system : MonitoredSystem σ
  outlet : Option (Scrape.Alerts.Outlet σ)
  site : Site σ
  /-- How often the caches are swept; zero means never. -/
  sweepInterval : Time.Span

/-- The parts that settings ask for, and the notes on the way. -/
def assemble (s : Settings) (service : Remote.ControlService σ) (network : Network σ)
    (readingsAt : Nat → Nat → Scrape.Alerts.Readings) : Running σ × List Note :=
  let (client, notes) := ClientSettings.ofSettings s
  let system : MonitoredSystem σ := { service := service, policy := .ofSettings s }
  let outlet := client.map fun c => { network := network, settings := c }
  ({ system := system
     outlet := outlet
     site := {
       collectors := Scrape.collectors s system outlet readingsAt
       timeout := s.scrapeTimeout }
     sweepInterval := s.cacheCleanupInterval }, notes)

namespace Running

/-- Asks for the directory for the first time; a system that cannot be reached
is asked again by the first scrape. -/
def warmUp (r : Running σ) : Watch σ Unit := do
  let now ← (Work.now : Work σ Nat)
  match ← r.system.directory (.after now r.site.timeout) with
  | .ok _ => pure ()
  | .error e =>
    (Work.warn ("Could not get the SAP instance list at startup: " ++ e.message) : Work σ Unit)
  if (← get).systemId.text?.isNone then
    (Work.warn "SAP SID is not known yet" : Work σ Unit)

/-- Whether something that is done at intervals is due again. -/
def isDue (interval : Time.Span) (since now : Nat) : Bool :=
  !interval.isZero && since + interval.nanos ≤ now

/-- Does what has become due since a time: a push of what waits and a sweep of
the caches. -/
def tend (r : Running σ) (since : Nat) : Watch σ Unit := do
  let now ← (Work.now : Work σ Nat)
  match r.outlet with
  | some o => if isDue o.settings.wait since now then o.flushOnce
  | none => pure ()
  if isDue r.sweepInterval since now then
    let _ ← Memory.sweep

/-- Pushes what waits before the end. -/
def shutDown (r : Running σ) : Watch σ Unit := do
  match r.outlet with
  | none => pure ()
  | some o => o.shutDown

end Running

end SapMonitor.Program
