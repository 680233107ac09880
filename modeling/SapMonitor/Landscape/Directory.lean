import SapMonitor.Settings.Basic
import SapMonitor.Landscape.FanOut
import SapMonitor.Landscape.Member
import SapMonitor.Landscape.SystemId
import SapMonitor.Remote.Service

/-!
# The directory of a system

The directory holds a member for every instance that the central instance
lists.  One population asks for the list and then, side by side, for the
properties of every instance.  A member whose properties cannot be read stays
in the directory under its number, with the error attached and the id of the
system.  A population that needs more permits than there can be is lost.

Main results:

- `assemble_length`: every listed instance becomes a member.
-/

namespace SapMonitor.Landscape

open Time (Span)
open Remote (RemoteError Instance Property ControlService Outcome)

/-! ## How the system is read -/

/-- How the system is read and how long the answers are kept. -/
structure Policy where
  useTls : Bool
  domain : String
  lifetime : Span
  errorLifetime : Span
  /-- How many instances are asked at a time; zero means all. -/
  fanoutLimit : Nat

/-- The policy of settings; a lifetime of zero, which would never end, stands
for the default. -/
def Policy.ofSettings (s : Settings) : Policy :=
  { useTls := s.useTls
    domain := s.hostDomain
    lifetime := s.cacheTtl.orElse Settings.answerLifetime
    errorLifetime := s.cacheErrorTtl
    fanoutLimit := s.fanoutLimit }

/-- All members of the system. -/
structure Directory where
  members : List Member
  lifetime : Span

/-! ## From outcomes to members -/

/-- The member of a listed instance before its properties are known. -/
def Member.ofListed (p : Policy) (i : Instance) : Member :=
  { listed := i
    endpoint := Landscape.endpoint i p.useTls p.domain
    status := Remote.stateValue i.dispstatus }

/-- What is wrong with the state of a listed instance. -/
def stateNote? (p : Policy) (i : Instance) : Option Note :=
  match Remote.StateColor.read i.dispstatus with
  | .ok _ => none
  | .error e =>
    some ⟨.warning, "Instance url " ++ Landscape.endpoint i p.useTls p.domain ++ ": " ++ e.message⟩

/-- The outcome of a task that was lost. -/
def lostTask : RemoteError :=
  .request "property resolution task did not finish"

/-- The cause that keeps a member from being resolved. -/
def unresolved (cause : RemoteError) : RemoteError :=
  .within "GetSingleInstance" cause

/-- The member after its properties were asked for. -/
def Member.settle (m : Member) : Outcome (List Property) → Member
  | .ok properties => { m with
      systemId := (Remote.property? properties "SAPSYSTEMNAME").getD m.systemId
      name := (Remote.property? properties "INSTANCE_NAME").getD m.name
      resolved := true }
  | .error cause => { m with
      name := m.numberLabel
      lastError := some (unresolved cause).message }

/-- What is noted about a member whose properties cannot be read. -/
def settleNote? (m : Member) : Outcome (List Property) → Option Note
  | .ok _ => none
  | .error cause =>
    some ⟨.error, "GetAllInstances: properties for instance " ++ m.numberLabel ++ ": " ++
      (unresolved cause).message⟩

/-- The system id after resolved members have offered theirs in order. -/
def offerIds (id : SystemId) (members : List Member) : SystemId :=
  members.foldl (fun id m => if m.resolved then (id.fill m.systemId).2 else id) id

/-- A member that is not resolved gets the id of the system. -/
def Member.lend (id : SystemId) (m : Member) : Member :=
  if m.resolved then m else { m with systemId := id.label }

/-- The members of listed instances, each with the outcome for it, before ids
are lent. -/
def settled (p : Policy) (listed : List Instance)
    (outcomes : List (Option (Outcome (List Property)))) : List Member :=
  (listed.zip outcomes).map fun (i, o) => (Member.ofListed p i).settle (o.getD (.error lostTask))

/-- The directory and the system id that outcomes lead to. -/
def assemble (p : Policy) (id : SystemId) (listed : List Instance)
    (outcomes : List (Option (Outcome (List Property)))) : Directory × SystemId :=
  let members := settled p listed outcomes
  let id := offerIds id members
  ({ members := members.map (Member.lend id), lifetime := p.lifetime }, id)

/-- Every listed instance becomes a member. -/
theorem assemble_length (p : Policy) (id : SystemId) {listed : List Instance}
    {outcomes : List (Option (Outcome (List Property)))} (h : outcomes.length = listed.length) :
    (assemble p id listed outcomes).1.members.length = listed.length := by
  simp [assemble, settled, h]

/-- The outcomes of a course of property tasks, in the order of the list. -/
def outcomes (listed : List Instance) (course : List (Move (Outcome (List Property)))) :
    List (Option (Outcome (List Property))) :=
  FanOut.gather listed.length (FanOut.landings course)

/-- The directory and the system id that a course of property tasks leads to. -/
def conclude (p : Policy) (id : SystemId) (listed : List Instance)
    (course : List (Move (Outcome (List Property)))) : Directory × SystemId :=
  assemble p id listed (outcomes listed course)

/-- The notes on the properties of listed instances. -/
def settleNotes (p : Policy) (listed : List Instance)
    (outcomes : List (Option (Outcome (List Property)))) : List Note :=
  (listed.zip outcomes).filterMap fun (i, o) =>
    settleNote? (Member.ofListed p i) (o.getD (.error lostTask))

/-- The notes on tasks that were lost. -/
def lossNotes (landings : List (Landing (Outcome (List Property)))) : List Note :=
  landings.filterMap fun l =>
    if l.result.isNone then
      some ⟨.error, "GetAllInstances: property resolution task failed: task " ++
        toString l.position ++ " panicked"⟩
    else none

/-! ## Population -/

variable {σ : Type}

/-- Asks for the properties of listed instances, side by side, and notes what happens on
the way. -/
def resolve (service : ControlService σ) (p : Policy) (d : Deadline) (listed : List Instance) :
    Work σ (List (Move (Outcome (List Property)))) := do
  Work.noteAll (listed.filterMap (stateNote? p))
  let course ← FanOut.run p.fanoutLimit
    (fun i => service.properties d (Landscape.endpoint i p.useTls p.domain)) listed
  Work.noteAll (lossNotes (FanOut.landings course))
  return course

/-- Populates a directory.  With a list at hand, a limit beyond the permits that there can be
ends it: nobody else is asked, and there is no outcome. -/
def populate (service : ControlService σ) (p : Policy) (d : Deadline) (id : SystemId) :
    Work σ (Option (Outcome (Directory × SystemId))) := do
  match ← service.systemInstances d with
  | .error e => return some (.error (.within "GetAllInstances" e))
  | .ok listed =>
    if maxPermits < p.fanoutLimit then return none
    let course ← resolve service p d listed
    Work.noteAll (settleNotes p listed (outcomes listed course))
    return some (.ok (conclude p id listed course))

end SapMonitor.Landscape
