import SapMonitor.LogStore.Client
import SapMonitor.Scrape.Survey

/-!
# Alerts

The open alerts of every instance, as metrics, as lines of the log store, or as
both.  Alerts are told apart by everything but their ids, and only alerts whose
state is a colour count.  For the log store an alert must not be too old; a time
that cannot be read counts as the present.  The clock is read for this, and once
more for the age.
-/

namespace SapMonitor.Scrape.Alerts

open LogStore (LabelSet LogLine ClientSettings)
open Series (Catalog Sample)
open Time (Moment Span)
open Landscape (Member)
open Remote (Alert StateColor)

/-! ## Metrics -/

/-- The labels of alerts. -/
def labels : List String :=
  ["Object", "Attribute", "Message", "ATime", "State"] ++ Landscape.sharedLabelNames

/-- The metrics of alerts. -/
def catalog : Catalog :=
  (Catalog.empty "alerts").insert "Alert" "SAP System open Alerts" labels

/-- The sample of an alert in a state. -/
def sample (m : Member) (a : Alert) (c : StateColor) : Sample :=
  .gauge "Alert" c.value
    (withCommon [a.object, a.attributeName, a.description, a.time, a.value] m.sharedLabels)

/-! ## Repetitions -/

/-- What tells alerts apart. -/
def identity (a : Alert) : String × String × String × String × String :=
  (a.object, a.attributeName, a.value, a.description, a.time)

/-- The alerts that are not among those seen before, each once. -/
def dedupFrom (seen : List (String × String × String × String × String)) :
    List Alert → List Alert
  | [] => []
  | a :: rest =>
    if seen.contains (identity a) then dedupFrom seen rest
    else a :: dedupFrom (identity a :: seen) rest

/-- The first of all alerts that are told apart. -/
def dedup (alerts : List Alert) : List Alert :=
  dedupFrom [] alerts

/-! ## Lines of the log store -/

/-- The two readings of the clock for an alert, one after the other. -/
structure Readings where
  /-- What counts as the time of an alert if its own cannot be read. -/
  fallback : Moment
  /-- What the age of the alert is counted to. -/
  present : Moment

/-- What becomes of alerts. -/
structure Policy where
  /-- Whether alerts become metrics. -/
  toMetrics : Bool
  /-- The age of the oldest alert that becomes a line. -/
  maxAge : Option Span
  /-- The moments that the clock shows for an alert at a time of the monitor, with so many alerts
  of the same instance still to come. -/
  readingsAt : Nat → Nat → Readings

/-- The labels of the line of an alert. -/
def lineLabels (m : Member) (a : Alert) : LabelSet :=
  let level := match StateColor.read? a.value with
    | some c => c.level
    | none => StateColor.fallbackLevel
  .ofList ([("Object", a.object), ("Attribute", a.attributeName), ("State", a.value)] ++
    Landscape.sharedLabelNames.zip m.sharedLabels ++ [("level", level)])

/-- The moment of an alert: the fallback, with a note, if its time cannot be
read. -/
def alertTime (raw : String) (offset : Int) (fallback : Moment) : Moment × Option Note :=
  match Time.alertMoment? raw offset with
  | some t => (t, none)
  | none => (fallback, some ⟨.warning, "Alert ATime parsing: " ++ Text.quote raw⟩)

/-- The line of an alert. -/
def line (m : Member) (a : Alert) (t : Moment) : LogLine :=
  { labels := lineLabels m a, moment := t, text := a.description }

/-- The way to the log store. -/
structure Outlet (σ : Type) where
  network : Http.Network σ
  settings : ClientSettings

variable {σ : Type}

/-- Pushes what waits once, and warns if that fails.  A batch is lost then. -/
def Outlet.flushOnce (o : Outlet σ) : Watch σ Unit := do
  match ← LogStore.flush (fun f => modifyGet (Memory.onPending f)) o.network o.settings with
  | .ok _ => pure ()
  | .error e => (Work.warn ("Loki push failed: " ++ e.message) : Work σ Unit)

/-- Pushes what waits before the end. -/
def Outlet.shutDown (o : Outlet σ) : Watch σ Unit := do
  match ← LogStore.flush (fun f => modifyGet (Memory.onPending f)) o.network o.settings with
  | .ok _ => pure ()
  | .error e =>
    (Work.complain ("Loki client stopped, final flush failed: " ++ e.message) : Work σ Unit)

/-- Sends the line of an alert, with `left` alerts still to come, unless the alert is too old. -/
def forward (p : Policy) (o : Outlet σ) (m : Member) (a : Alert) (left : Nat) : Watch σ Unit := do
  let clock := p.readingsAt (← (Work.now : Work σ Nat)) left
  let (t, note) := alertTime a.time o.settings.offset clock.fallback
  (Work.noteAll note.toList : Work σ Unit)
  unless t.isOutdated clock.present p.maxAge do
    let sent ← LogStore.send (fun f => modifyGet (Memory.onPending f)) o.network o.settings
      (line m a t)
    match sent with
    | .ok () => return ()
    | .error e => (Work.warn ("Alert push to Loki: " ++ e.message) : Work σ Unit)

/-- Works through alerts in order and yields their samples. -/
def report (p : Policy) (outlet : Option (Outlet σ)) (m : Member) :
    List Alert → Watch σ (List Sample)
  | [] => return []
  | a :: rest => do
    match StateColor.read a.value with
    | .error e =>
      (Work.warn ("recordAlerts: Alert State conversion: " ++ e.message) : Work σ Unit)
      report p outlet m rest
    | .ok c =>
      match outlet with
      | some o => forward p o m a rest.length
      | none => pure ()
      let samples ← report p outlet m rest
      return if p.toMetrics then sample m a c :: samples else samples

/-- The alerts that matter: for metrics, each once. -/
def relevant (p : Policy) (alerts : List Alert) : List Alert :=
  if p.toMetrics then dedup alerts else alerts

/-- Asks an instance for its alerts. -/
def visit (s : MonitoredSystem σ) (p : Policy) (outlet : Option (Outlet σ)) (d : Deadline)
    (m : Member) : Watch σ (List Sample) := do
  match ← (s.service.alerts d m.endpoint : Work σ _) with
  | .error e => skip ("GetAlerts: " ++ e.message)
  | .ok tree => report p outlet m (relevant p tree.alerts)

/-- The collector of alerts. -/
def collector (s : MonitoredSystem σ) (p : Policy) (outlet : Option (Outlet σ)) : Collector σ :=
  { name := catalog.subsystem
    collect := survey s catalog "recordAlerts" (fun _ => true) (visit s p outlet) }

end SapMonitor.Scrape.Alerts
