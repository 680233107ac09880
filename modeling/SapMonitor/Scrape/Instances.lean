import SapMonitor.Scrape.Survey

/-!
# Instances and processes

The metrics of the start service: one series for every instance of the system,
one for every process that its start services run, and the number of processes
in each state per instance.

Main results:

- `colorSamples_length`: every instance has a count for every colour.
-/

namespace SapMonitor.Scrape.Instances

open Series (Catalog Family Sample)
open Landscape (Member WatchedProcess)
open Remote (Outcome StateColor)

/-! ## Metrics -/

/-- The metric that counts the processes in a state. -/
def countMetric (c : StateColor) : String :=
  "processesperinstance_" ++ c.label

/-- The labels of instances. -/
def memberLabels : List String :=
  ["features", "start_priority", "instance_name", "instance_number", "SID", "instance_hostname",
    "dispstatus"]

/-- The labels of processes. -/
def processLabels : List String :=
  ["name", "pid", "status", "description", "starttime", "elapsedtime"] ++
    Landscape.sharedLabelNames ++ ["proc_dispstatus"]

/-- The catalog with the counts for some colours. -/
def withCounts (c : Catalog) : List StateColor → Catalog
  | [] => c
  | color :: rest =>
    withCounts (c.insert (countMetric color) ("Processes in state " ++ Text.upper color.label)
      Landscape.sharedLabelNames) rest

/-- The metrics of instances and processes. -/
def catalog : Catalog :=
  withCounts
    (((Catalog.empty "start_service").insert "instances"
      "The SAP instances in the context of the whole SAP system" memberLabels).insert "processes"
      "The processes started by the SAP Start Service" processLabels)
    StateColor.all

/-! ## Samples -/

/-- The sample of an instance. -/
def instanceSample (m : Member) : Sample :=
  .gauge "instances" m.status
    [m.listed.features, m.listed.startPriority, m.name, m.numberLabel, m.systemId,
      m.listed.hostname, m.listed.dispstatus]

/-- The sample of a process. -/
def processSample (m : Member) (p : WatchedProcess) : Sample :=
  let l := p.listed
  .gauge "processes" p.status
    (withCommon [l.name, toString l.pid, l.textstatus, l.description, l.starttime, l.elapsedtime]
      m.sharedLabels ++ [l.dispstatus])

/-- The number of processes in a state. -/
def colorCount (c : StateColor) (ps : List WatchedProcess) : Nat :=
  ps.countP fun p => StateColor.read? p.listed.dispstatus == some c

/-- The counts of processes by state. -/
def colorSamples (m : Member) (ps : List WatchedProcess) : List Sample :=
  StateColor.all.map fun c =>
    .gauge (countMetric c) (Float.ofNat (colorCount c ps)) m.sharedLabels

/-- Every instance has a count for every colour. -/
@[simp] theorem colorSamples_length (m : Member) (ps : List WatchedProcess) :
    (colorSamples m ps).length = 4 :=
  rfl

/-- The samples of the processes of an instance. -/
def processSamples (m : Member) (ps : List WatchedProcess) : List Sample :=
  ps.map (processSample m) ++ colorSamples m ps

/-! ## Collection -/

variable {σ : Type}

/-- The families of instances. -/
def collectInstances (s : MonitoredSystem σ) : Deadline → Watch σ (Outcome (List Family)) :=
  survey s catalog "recordInstances collector error" (fun _ => true) fun _ m =>
    return [instanceSample m]

/-- The families of processes. -/
def collectProcesses (s : MonitoredSystem σ) : Deadline → Watch σ (Outcome (List Family)) :=
  survey s catalog "recordProcesses collector error" (fun _ => true) fun d m => do
    match ← s.processes d m.endpoint with
    | .error e => skip ("GetProcessList error: " ++ e.message)
    | .ok ps => return processSamples m ps

/-- The families of both parts, and the first failure if there are none. -/
def combine : Outcome (List Family) → Outcome (List Family) → Outcome (List Family)
  | .ok a, .ok b => .ok (a ++ b)
  | .ok [], .error e => .error e
  | .error e, .ok [] => .error e
  | .error e, .error _ => .error e
  | .ok a, .error _ => .ok a
  | .error _, .ok b => .ok b

/-- The notes on parts that failed. -/
def failureNotes (parts : List (Outcome (List Family))) : List Note :=
  parts.filterMap fun
    | .ok _ => none
    | .error e => some ⟨.warning, "Start Service Collector scrape errors: " ++ e.message⟩

/-- The collector of instances and processes. -/
def collector (s : MonitoredSystem σ) : Collector σ :=
  { name := catalog.subsystem
    collect := fun d => do
      let instances ← collectInstances s d
      let processes ← collectProcesses s d
      (Work.noteAll (failureNotes [instances, processes]) : Work σ Unit)
      return combine instances processes }

end SapMonitor.Scrape.Instances
