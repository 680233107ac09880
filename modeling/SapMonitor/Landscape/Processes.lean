import SapMonitor.Remote.Service
import SapMonitor.Remote.StateColor

/-!
# Process lists

The processes that the start service of an instance runs, each with its state
as a number.
-/

namespace SapMonitor.Landscape

open Remote (OsProcess ControlService Outcome)

/-- A process and its state as a number. -/
structure WatchedProcess where
  listed : OsProcess
  status : Float

/-- A process as it is watched; a state that is no colour counts as zero. -/
def WatchedProcess.ofListed (p : OsProcess) : WatchedProcess :=
  ⟨p, Remote.stateValue p.dispstatus⟩

/-- What is wrong with the state of a process. -/
def processNote? (endpoint : String) (p : OsProcess) : Option Note :=
  match Remote.StateColor.read p.dispstatus with
  | .ok _ => none
  | .error e => some ⟨.warning, "Process status error, url " ++ endpoint ++ ": " ++ e.message⟩

/-- The processes of a list as they are watched. -/
def watched (ps : List OsProcess) : List WatchedProcess :=
  ps.map .ofListed

/-- Asks for the processes of an instance. -/
def readProcesses {σ : Type} (service : ControlService σ) (d : Deadline) (endpoint : String) :
    Work σ (Outcome (List WatchedProcess)) := do
  match ← service.processes d endpoint with
  | .error e => return .error (.within "GetProcesses" e)
  | .ok ps =>
    Work.noteAll (ps.filterMap (processNote? endpoint))
    return .ok (watched ps)

/-- The key under which the process list of an instance is cached. -/
def processKey (endpoint : String) : String :=
  "ProcessList_" ++ endpoint

end SapMonitor.Landscape
