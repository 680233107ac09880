import SapMonitor.Remote.Service

/-!
# A service that plays a script

A script lists the replies to each question, per access point or for all of
them: the first call takes the first reply, and the last reply goes on forever.
The stage counts the calls, and how many of those that take time overlap.
-/

namespace SapMonitor.Remote

open Time (Span)

/-! ## Scripts -/

/-- One reply of a script. -/
structure Reply (α : Type) where
  delay : Span := .zero
  /-- Whether the task that asks is lost. -/
  lost : Bool := false
  outcome : Outcome α

/-- The reply to the call with the number, counted from zero. -/
def replyAt {α : Type} (replies : List (Reply α)) (n : Nat) : Option (Reply α) :=
  replies[min n (replies.length - 1)]?

/-- The replies of one access point; a question without replies is left to the
script for all access points. -/
structure Script where
  properties : Option (List (Reply (List Property))) := none
  processes : Option (List (Reply (List OsProcess))) := none
  queues : Option (List (Reply (List Queue))) := none
  alerts : Option (List (Reply AlertTree)) := none
  workProcesses : Option (List (Reply (List WorkProcess))) := none
  lockStatistic : Option (List (Reply LockStatistic)) := none

/-- The replies of a whole system. -/
structure Play where
  systemInstances : List (Reply (List Instance)) := []
  endpoints : List (String × Script) := []
  everywhere : Script := {}

/-! ## The stage -/

/-- What has happened on the stage: the calls, the ends of those that took time,
and how many of these overlapped at most. -/
structure Stage where
  calls : List ((Operation × String) × Nat) := []
  ends : List Nat := []
  mostAtOnce : Nat := 0

namespace Stage

/-- How often a question was asked of an access point. -/
def count (s : Stage) (o : Operation) (endpoint : String) : Nat :=
  (s.calls.lookup (o, endpoint)).getD 0

/-- One more call. -/
def addCall (s : Stage) (o : Operation) (endpoint : String) : Stage :=
  { s with
    calls := ((o, endpoint), s.count o endpoint + 1) ::
      s.calls.filter fun c => c.1 != (o, endpoint) }

/-- One more call that takes time. -/
def addWait (s : Stage) (start finish : Nat) : Stage :=
  { s with
    ends := finish :: s.ends
    mostAtOnce := max s.mostAtOnce ((s.ends.filter fun e => start < e).length + 1) }

end Stage

/-- Plays the reply to a call. -/
def play {α : Type} (replies : List (Reply α)) (nothing : α) (o : Operation) (d : Deadline)
    (endpoint : String) : Work Stage (Option (Outcome α)) := do
  let n ← Work.ask fun s => (s.count o endpoint, s.addCall o endpoint)
  let reply := (replyAt replies n).getD { outcome := .ok nothing }
  let start ← Work.now
  unless reply.delay.isZero do
    Work.ask fun s => ((), s.addWait start (min (start + reply.delay.nanos) (max start d.moment)))
  let outcome ← d.keep o.name reply.delay (pure (.ok ()))
  match outcome with
  | .error e => return some (.error e)
  | .ok () => return if reply.lost then none else some reply.outcome

/-- The outcome of a call whose task is not expected to be lost. -/
def Outcome.ofTask {α : Type} (o : Operation) : Option (Outcome α) → Outcome α
  | some r => r
  | none => .error (.request (o.name ++ ": the task was lost"))

/-- The replies that an access point gives to a question. -/
def Play.replies {α : Type} (p : Play) (f : Script → Option (List (Reply α))) (endpoint : String) :
    List (Reply α) :=
  match (p.endpoints.lookup endpoint).bind f with
  | some replies => replies
  | none => (f p.everywhere).getD []

/-- The service that plays a script. -/
def Play.service (p : Play) : ControlService Stage :=
  let ask {α : Type} (f : Script → Option (List (Reply α))) (nothing : α) (o : Operation)
      (d : Deadline) (endpoint : String) : Work Stage (Outcome α) :=
    Outcome.ofTask o <$> play (p.replies f endpoint) nothing o d endpoint
  { systemInstances := fun d =>
      Outcome.ofTask .systemInstances <$> play p.systemInstances [] .systemInstances d ""
    properties := fun d endpoint =>
      play (p.replies Script.properties endpoint) [] .properties d endpoint
    processes := ask Script.processes [] .processes
    queues := ask Script.queues [] .queues
    alerts := ask Script.alerts {} .alerts
    workProcesses := ask Script.workProcesses [] .workProcesses
    lockStatistic := ask Script.lockStatistic {} .lockStatistic }

end SapMonitor.Remote
