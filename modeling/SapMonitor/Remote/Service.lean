import SapMonitor.Deadline
import SapMonitor.Remote.Record

/-!
# The web service

Every instance has a start service that answers questions about it; the one of
the central instance also knows all instances of the system.  Whatever answers
these questions is a web service: the real one behind a network, or one that
plays a script.
-/

namespace SapMonitor.Remote

/-- A question to the service. -/
inductive Operation where
  | systemInstances
  | properties
  | processes
  | queues
  | alerts
  | workProcesses
  | lockStatistic
  deriving DecidableEq

/-- The name of a question in requests and messages. -/
def Operation.name : Operation → String
  | systemInstances => "GetSystemInstanceList"
  | properties => "GetInstanceProperties"
  | processes => "GetProcessList"
  | queues => "GetQueueStatistic"
  | alerts => "GetAlerts"
  | workProcesses => "ABAPGetWPTable"
  | lockStatistic => "EnqGetStatistic"

/-- The outcome of a call. -/
abbrev Outcome (α : Type) := Except RemoteError α

/-- Whatever answers the questions.  The task that asks for properties can be
lost; then there is no outcome. -/
structure ControlService (σ : Type) where
  systemInstances : Deadline → Work σ (Outcome (List Instance))
  properties : Deadline → String → Work σ (Option (Outcome (List Property)))
  processes : Deadline → String → Work σ (Outcome (List OsProcess))
  queues : Deadline → String → Work σ (Outcome (List Queue))
  alerts : Deadline → String → Work σ (Outcome AlertTree)
  workProcesses : Deadline → String → Work σ (Outcome (List WorkProcess))
  lockStatistic : Deadline → String → Work σ (Outcome LockStatistic)

end SapMonitor.Remote
