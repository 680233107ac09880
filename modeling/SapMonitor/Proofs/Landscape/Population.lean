import SapMonitor.Landscape.Directory
import SapMonitor.Proofs.Landscape.Courses

/-!
# Populations of the directory

A population asks every listed instance for its properties, and the answers can come in
any order.  The directory goes by the positions of the instances alone: whatever course
the tasks take, each member carries the outcome of its own instance, and the system id is
the same.  Only a limit beyond the permits that there can be leaves no directory.

Main results:

- `members_assemble`: the member of an instance reports the outcome at its position.
- `conclude_of_course`: all courses that bring the same outcomes lead to one directory.
- `log_populate`: a population asks every listed instance once.
- `populates`: all of it, for the population of a service.
- `lost_of_crowded`: a population whose limit is too high.
-/

namespace SapMonitor.Landscape

open Remote (RemoteError Instance Property ControlService Outcome)

/-! ## Reports -/

/-- The member of an instance whose properties cannot be read. -/
def Member.failed (p : Policy) (label : String) (i : Instance) (cause : RemoteError) : Member :=
  { listed := i
    name := toString i.number
    systemId := label
    endpoint := Landscape.endpoint i p.useTls p.domain
    status := Remote.stateValue i.dispstatus
    resolved := false
    lastError := some (RemoteError.within "GetSingleInstance" cause).message }

/-- The member of an instance, given the outcome of its task and the id of the system. -/
def Member.reported (p : Policy) (label : String) (i : Instance) :
    Option (Outcome (List Property)) → Member
  | some (.ok properties) =>
    { listed := i
      name := (Remote.property? properties "INSTANCE_NAME").getD ""
      systemId := (Remote.property? properties "SAPSYSTEMNAME").getD ""
      endpoint := Landscape.endpoint i p.useTls p.domain
      status := Remote.stateValue i.dispstatus
      resolved := true
      lastError := none }
  | some (.error cause) => .failed p label i cause
  | none => .failed p label i lostTask

/-- Settling a member and lending it the id of the system reports the outcome. -/
theorem lend_settle (p : Policy) (id : SystemId) (i : Instance)
    (o : Option (Outcome (List Property))) :
    ((Member.ofListed p i).settle (o.getD (.error lostTask))).lend id =
      Member.reported p id.label i o := by
  rcases o with _ | (cause | properties) <;> rfl

/-- The member of an instance reports the outcome at its position. -/
theorem members_assemble (p : Policy) (id : SystemId) {listed : List Instance}
    (outcome : Nat → Option (Outcome (List Property))) {k : Nat} {i : Instance}
    (hi : listed[k]? = some i) :
    let directory := assemble p id listed ((List.range listed.length).map outcome)
    directory.1.members[k]? = some (Member.reported p directory.2.label i (outcome k)) := by
  have hk : k < listed.length := (List.getElem?_eq_some_iff.1 hi).1
  have hrange : ((List.range listed.length).map outcome)[k]? = some (outcome k) := by
    rw [List.getElem?_map, List.getElem?_range hk]
    rfl
  have hzip : (listed.zip ((List.range listed.length).map outcome))[k]? = some (i, outcome k) :=
    List.getElem?_zip_eq_some.2 ⟨hi, hrange⟩
  simp only [assemble, settled, List.getElem?_map, hzip, Option.map_some]
  exact congrArg some (lend_settle p _ i (outcome k))

/-- All courses that bring the same outcomes lead to one directory. -/
theorem conclude_of_course (p : Policy) (id : SystemId) {listed : List Instance}
    {course : List (Move (Outcome (List Property)))}
    {outcome : Nat → Option (Outcome (List Property))}
    (h : IsCourse p.fanoutLimit listed.length course) (ho : Brings outcome course) :
    conclude p id listed course = assemble p id listed ((List.range listed.length).map outcome) := by
  rw [conclude, outcomes, h.gather ho]

/-! ## What a population does -/

variable {σ : Type}

/-- Notes change the journal only. -/
theorem peer_noteAll (notes : List Note) (w : World σ) :
    (Work.noteAll notes w).2.peer = w.peer := by
  induction notes generalizing w with
  | nil => rfl
  | cons n notes ih => exact ih { w with journal := n :: w.journal }

/-- The task that asks for the properties of an instance. -/
def propertyTask (service : ControlService σ) (p : Policy) (d : Deadline) (i : Instance) :
    Work σ (Option (Outcome (List Property))) :=
  service.properties d (Landscape.endpoint i p.useTls p.domain)

theorem resolve_run (service : ControlService σ) (p : Policy) (d : Deadline)
    (listed : List Instance) (w : World σ) :
    ∃ w₁, w₁.peer = w.peer ∧
      (resolve service p d listed w).1 =
        (FanOut.run p.fanoutLimit (propertyTask service p d) listed w₁).1 ∧
      (resolve service p d listed w).2.peer =
        (FanOut.run p.fanoutLimit (propertyTask service p d) listed w₁).2.peer :=
  ⟨_, peer_noteAll _ w, rfl, peer_noteAll _ _⟩

theorem populate_of_error {service : ControlService σ} {p : Policy} {d : Deadline} {id : SystemId}
    {w w' : World σ} {e : RemoteError} (h : service.systemInstances d w = (.error e, w')) :
    populate service p d id w = (some (.error (.within "GetAllInstances" e)), w') := by
  simp only [populate, bind, StateT.bind, h]
  rfl

/-- A limit beyond the permits ends a population when it gets the list. -/
theorem populate_of_crowded {service : ControlService σ} {p : Policy} {d : Deadline}
    {id : SystemId} {w w' : World σ} {listed : List Instance} (hp : maxPermits < p.fanoutLimit)
    (h : service.systemInstances d w = (.ok listed, w')) :
    populate service p d id w = (none, w') := by
  simp only [populate, bind, StateT.bind, h, hp, ↓reduceIte]
  rfl

theorem populate_of_listed {service : ControlService σ} {p : Policy} {d : Deadline} {id : SystemId}
    {w w' : World σ} {listed : List Instance} (hp : p.fanoutLimit ≤ maxPermits)
    (h : service.systemInstances d w = (.ok listed, w')) :
    (populate service p d id w).1 =
        some (.ok (conclude p id listed (resolve service p d listed w').1)) ∧
      (populate service p d id w).2.peer = (resolve service p d listed w').2.peer := by
  simp only [populate, bind, StateT.bind, h, Nat.not_lt.2 hp, ↓reduceIte]
  exact ⟨rfl, peer_noteAll _ _⟩

/-- A population that gets the list takes a course in which the tasks bring what the service
answers for their instances. -/
theorem populate_course {service : ControlService σ} {p : Policy} {d : Deadline} {id : SystemId}
    {w w' : World σ} {listed : List Instance} (hp : p.fanoutLimit ≤ maxPermits)
    (h : service.systemInstances d w = (.ok listed, w')) :
    ∃ course, IsCourse p.fanoutLimit listed.length course ∧
      (∀ l ∈ FanOut.landings course, ∃ i w₁, listed[l.position]? = some i ∧
        l.result = (propertyTask service p d i w₁).1) ∧
      (populate service p d id w).1 = some (.ok (conclude p id listed course)) := by
  rcases resolve_run service p d listed w' with ⟨w₁, -, hcourse, -⟩
  refine ⟨_, ?_, ?_, (populate_of_listed hp h).1⟩
  · rw [hcourse]
    exact FanOut.run_isCourse ..
  · rw [hcourse]
    exact fun l hl => FanOut.run_brings hl

/-! ## Requests -/

/-- Work with a log at hand that it does not touch. -/
def besideLog {α : Type} (work : Work σ α) : Work (σ × List String) α :=
  fun w =>
    let done := work ⟨w.clock, w.journal, w.peer.1⟩
    (done.1, ⟨done.2.clock, done.2.journal, (done.2.peer, w.peer.2)⟩)

/-- The service, with a log of the access points that are asked for properties. -/
def logged (service : ControlService σ) : ControlService (σ × List String) where
  systemInstances d := besideLog (service.systemInstances d)
  properties d url := do
    Work.ask fun peer => ((), (peer.1, peer.2 ++ [url]))
    besideLog (service.properties d url)
  processes d url := besideLog (service.processes d url)
  queues d url := besideLog (service.queues d url)
  alerts d url := besideLog (service.alerts d url)
  workProcesses d url := besideLog (service.workProcesses d url)
  lockStatistic d url := besideLog (service.lockStatistic d url)

/-- A task asks its instance. -/
theorem log_propertyTask (service : ControlService σ) (p : Policy) (d : Deadline) (i : Instance)
    (w : World (σ × List String)) :
    (propertyTask (logged service) p d i w).2.peer.2 =
      w.peer.2 ++ [Landscape.endpoint i p.useTls p.domain] :=
  rfl

/-- A fan-out does the task of every item once, in order. -/
theorem log_launch {ρ α : Type} (limit start : Nat) {task : α → Work (σ × List String) (Option ρ)}
    {url : α → String} (htask : ∀ item w, (task item w).2.peer.2 = w.peer.2 ++ [url item])
    (position : Nat) (due : List (Landing ρ)) (items : List α) (w : World (σ × List String)) :
    (FanOut.launch limit start task position due items w).2.peer.2 =
      w.peer.2 ++ items.map url := by
  induction items generalizing position due w with
  | nil => exact (List.append_nil _).symm
  | cons item rest ih =>
    rw [FanOut.launch_cons]
    simp only
    rw [ih, htask, List.append_assoc]
    rfl

/-- A population asks every listed instance once, and nobody if there is no list. -/
theorem log_populate (service : ControlService σ) {p : Policy} (hp : p.fanoutLimit ≤ maxPermits)
    (d : Deadline) (id : SystemId) (w : World (σ × List String)) :
    (populate (logged service) p d id w).2.peer.2 =
      w.peer.2 ++ match (service.systemInstances d ⟨w.clock, w.journal, w.peer.1⟩).1 with
        | .ok listed => listed.map fun i => Landscape.endpoint i p.useTls p.domain
        | .error _ => [] := by
  cases h : service.systemInstances d ⟨w.clock, w.journal, w.peer.1⟩ with
  | mk outcome w' =>
    have hlog : (logged service).systemInstances d w =
        (outcome, ⟨w'.clock, w'.journal, (w'.peer, w.peer.2)⟩) := by
      simp only [logged, besideLog, h]
    cases outcome with
    | error e =>
      rw [populate_of_error hlog]
      exact (List.append_nil _).symm
    | ok listed =>
      obtain ⟨w₁, hpeer, -, hrun⟩ := resolve_run (logged service) p d listed
        ⟨w'.clock, w'.journal, (w'.peer, w.peer.2)⟩
      have hlaunch := log_launch p.fanoutLimit w₁.clock (log_propertyTask service p d) 0 []
        listed w₁
      rw [(populate_of_listed hp hlog).2, hrun]
      rw [hpeer] at hlaunch
      exact hlaunch

/-! ## Any course -/

/-- What holds for every course of the property tasks of listed instances, when `outcome`
says what each of them brings. -/
structure AnyCourse (p : Policy) (id : SystemId) (listed : List Instance)
    (outcome : Nat → Option (Outcome (List Property))) : Prop where
  /-- All courses lead to one directory and one system id. -/
  same : ∀ course, IsCourse p.fanoutLimit listed.length course → Brings outcome course →
    conclude p id listed course = assemble p id listed ((List.range listed.length).map outcome)
  /-- There is one member for each listed instance. -/
  length : (assemble p id listed ((List.range listed.length).map outcome)).1.members.length =
    listed.length
  /-- The member at a position stands for the instance at that position, and reports its
  outcome. -/
  members : ∀ k i, listed[k]? = some i →
    let directory := assemble p id listed ((List.range listed.length).map outcome)
    directory.1.members[k]? = some (Member.reported p directory.2.label i (outcome k))
  lifetime : (assemble p id listed ((List.range listed.length).map outcome)).1.lifetime = p.lifetime
  /-- Every task takes off once. -/
  once : ∀ course : List (Move (Outcome (List Property))),
    IsCourse p.fanoutLimit listed.length course →
    (takeOffs course).Perm (List.range listed.length)
  /-- No more tasks are in flight than the limit allows. -/
  room : ∀ course : List (Move (Outcome (List Property))),
    IsCourse p.fanoutLimit listed.length course → ∀ before, before <+: course →
    ∃ f, (Fleet.ready p.fanoutLimit listed.length).run? before = some f ∧
      (0 < p.fanoutLimit → f.flying.length ≤ p.fanoutLimit)
  /-- Wherever the tasks are, they come to an end. -/
  ends : ∀ course f, (Fleet.ready p.fanoutLimit listed.length).run? course = some f →
    Brings outcome course →
    ∃ rest, IsCourse p.fanoutLimit listed.length (course ++ rest) ∧ Brings outcome (course ++ rest)

theorem anyCourse (p : Policy) (id : SystemId) (listed : List Instance)
    (outcome : Nat → Option (Outcome (List Property))) : AnyCourse p id listed outcome where
  same _ h ho := conclude_of_course p id h ho
  length := assemble_length p id (by rw [List.length_map, List.length_range])
  members _ _ hi := members_assemble p id outcome hi
  lifetime := rfl
  once _ h := h.takeOffs_perm
  room _ h _ hb := h.room hb
  ends _ _ h ho := by
    rcases exists_course h with ⟨rest, hcourse, hbrings⟩
    exact ⟨rest, hcourse, brings_append.2 ⟨ho, hbrings⟩⟩

/-- What a population of the directory does, whatever the service answers. -/
structure Populates (service : ControlService σ) (p : Policy) (d : Deadline) (id : SystemId) :
    Prop where
  /-- Without a list there is no directory, and nothing else is asked. -/
  unlisted : ∀ w e w', service.systemInstances d w = (.error e, w') →
    populate service p d id w = (some (.error (.within "GetAllInstances" e)), w')
  /-- With a list there is a directory, to which a course of the property tasks leads. -/
  listed : ∀ w listed w', service.systemInstances d w = (.ok listed, w') →
    ∃ course, IsCourse p.fanoutLimit listed.length course ∧
      (∀ l ∈ FanOut.landings course, ∃ i w₁, listed[l.position]? = some i ∧
        l.result = (service.properties d (endpoint i p.useTls p.domain) w₁).1) ∧
      (populate service p d id w).1 = some (.ok (conclude p id listed course))
  /-- Every listed instance is asked for its properties once. -/
  asked : ∀ w : World (σ × List String),
    (populate (logged service) p d id w).2.peer.2 =
      w.peer.2 ++ match (service.systemInstances d ⟨w.clock, w.journal, w.peer.1⟩).1 with
        | .ok listed => listed.map fun i => endpoint i p.useTls p.domain
        | .error _ => []
  /-- The course does not matter. -/
  anyCourse : ∀ listed outcome, AnyCourse p id listed outcome

/-- The directory does not depend on the course of the fan-out, if there can be as many
permits as the limit wants. -/
theorem populates (service : ControlService σ) {p : Policy} (hp : p.fanoutLimit ≤ maxPermits)
    (d : Deadline) (id : SystemId) : Populates service p d id where
  unlisted _ _ _ h := populate_of_error h
  listed _ _ _ h := populate_course hp h
  asked := log_populate service hp d id
  anyCourse := anyCourse p id

/-- A service that lists one instance and knows nothing about it. -/
def loneService (σ : Type) : ControlService σ where
  systemInstances _ := return .ok [{ hostname := "sap" }]
  properties _ _ := return some (.ok [])
  processes _ _ := return .ok []
  queues _ _ := return .ok []
  alerts _ _ := return .ok {}
  workProcesses _ _ := return .ok []
  lockStatistic _ _ := return .ok {}

/-- A policy with a limit. -/
def limitedTo (limit : Nat) : Policy where
  useTls := false
  domain := ""
  lifetime := .ofSeconds 30
  errorLifetime := .ofSeconds 5
  fanoutLimit := limit

theorem populates_limited :
    (limitedTo 16).fanoutLimit ≤ maxPermits ∧
      Populates (loneService Unit) (limitedTo 16) ⟨1⟩ {} := by
  have hp : (limitedTo 16).fanoutLimit ≤ maxPermits := by decide
  exact ⟨hp, populates (loneService Unit) hp ⟨1⟩ {}⟩

/-- A list is at hand, but there cannot be as many permits as the limit wants: no directory
comes of it. -/
theorem lost_of_crowded :
    ((loneService Unit).systemInstances ⟨1⟩ ⟨0, [], ()⟩).1 = .ok [{ hostname := "sap" }] ∧
      (populate (loneService Unit) (limitedTo (maxPermits + 1)) ⟨1⟩ {} ⟨0, [], ()⟩).1 = none :=
  ⟨rfl, rfl⟩

end SapMonitor.Landscape
