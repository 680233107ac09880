import SapMonitor.Proofs.Scrape.Tours
import SapMonitor.Scrape.Gather

/-!
# Inquiries

Most surveys inquire: they ask every member that matters for something, and make samples of
the answer.  A member that does not answer, because the call fails or because it has nothing
that could be asked for, yields nothing.  So the families of an inquiry are made of the answers
alone: it does not matter who else was asked.

Main results:

- `Inquiry.run_of_directory`: the families of an inquiry are made of the answers.
- `Inquiry.heard_filter`: members that do not answer can be left out.
- `Locks.collect_eq`, `WorkProcesses.collect_eq`, `Queues.collect_eq` and
  `Instances.collectProcesses_eq`: surveys that are inquiries.
-/

namespace SapMonitor.Scrape

open Series (Buffer Catalog Family Sample)
open Landscape (Directory Member WatchedProcess)
open Remote (Alert LockStatistic Outcome Queue RemoteError StateColor WorkProcess)

variable {σ α : Type}

/-! ## Inquiries -/

/-- What members are asked, and what becomes of their answers. -/
structure Inquiry (σ α : Type) where
  catalog : Catalog
  purpose : String
  matters : Member → Bool
  /-- Asks a member.  There is no answer if that fails, or if nothing can be asked for. -/
  ask : Deadline → Member → Watch σ (Option α)
  /-- Works off an answer. -/
  digest : Member → α → Watch σ (List Sample)
  /-- The samples that an answer is made into. -/
  samples : Member → α → List Sample
  digests : ∀ m a memory w, (digest m a memory w).1.1 = samples m a

namespace Inquiry

variable (q : Inquiry σ α) (s : MonitoredSystem σ)

/-- Asks a member, and works off the answer if there is one. -/
def visit (d : Deadline) (m : Member) : Watch σ (List Sample) := do
  match ← q.ask d m with
  | none => return []
  | some a => q.digest m a

/-- Surveys the members that matter. -/
def run (d : Deadline) : Watch σ (Outcome (List Family)) :=
  survey s q.catalog q.purpose q.matters q.visit d

/-- The stops of a run; there are none without a directory. -/
def tour (d : Deadline) (memory : Memory) (w : World σ) : List (Stop σ) :=
  match s.directory d memory w with
  | ((.ok directory, memory'), w') =>
    stops (q.visit d) (.empty q.catalog) (directory.members.filter q.matters) memory' w'
  | ((.error _, _), _) => []

/-- The members that a run asks, each with its answer. -/
def answers (d : Deadline) (memory : Memory) (w : World σ) : List (Member × Option α) :=
  (q.tour s d memory w).map fun st => (st.member, st.outcome (q.ask d st.member))

/-- The members that answer, each with its answer. -/
def heard (answers : List (Member × Option α)) : List (Member × α) :=
  answers.filterMap fun x => x.2.map fun a => (x.1, a)

/-- The families that answers are made into. -/
def families (heard : List (Member × α)) : List Family :=
  (Buffer.filled q.catalog (heard.flatMap fun x => q.samples x.1 x.2)).families

variable {q s} {d : Deadline} {memory memory' : Memory} {w w' : World σ}

theorem tour_of_directory {directory : Directory}
    (h : s.directory d memory w = ((.ok directory, memory'), w')) :
    q.tour s d memory w =
      stops (q.visit d) (.empty q.catalog) (directory.members.filter q.matters) memory' w' := by
  rw [tour, h]

/-- The members that matter are asked, in their order. -/
theorem members_answers {directory : Directory}
    (h : (s.directory d memory w).1.1 = .ok directory) :
    (q.answers s d memory w).map Prod.fst = directory.members.filter q.matters := by
  rw [answers, tour_of_directory (ending_eq h), List.map_map]
  exact members_stops _ _ _ _ _

/-- A visit yields the samples of its answer. -/
theorem outcome_visit (st : Stop σ) :
    st.outcome (q.visit d st.member) =
      (st.outcome (q.ask d st.member)).elim [] (q.samples st.member) := by
  simp only [Stop.outcome, visit, Watch.bind_run]
  cases (q.ask d st.member st.memory st.world).1.1 with
  | none => rfl
  | some a => exact q.digests ..

theorem flatMap_heard (answers : List (Member × Option α)) :
    (heard answers).flatMap (fun x => q.samples x.1 x.2) =
      answers.flatMap fun x => x.2.elim [] (q.samples x.1) := by
  induction answers with
  | nil => rfl
  | cons x answers ih =>
    obtain ⟨m, o⟩ := x
    cases o with
    | none => exact ih
    | some a => exact congrArg (q.samples m a ++ ·) ih

/-- Without a directory an inquiry fails, and does nothing else. -/
theorem run_of_error {e : RemoteError} (h : s.directory d memory w = ((.error e, memory'), w')) :
    q.run s d memory w = ((.error (.within q.purpose e), memory'), w') :=
  survey_of_error h

/-- With a directory it succeeds, and hands out the families that the answers are made into. -/
theorem run_of_directory {directory : Directory}
    (h : (s.directory d memory w).1.1 = .ok directory) :
    (q.run s d memory w).1.1 = .ok (q.families (heard (q.answers s d memory w))) := by
  have hread := ending_eq h
  have hvisits : (stops (q.visit d) (.empty q.catalog) (directory.members.filter q.matters)
      (s.directory d memory w).1.2 (s.directory d memory w).2).flatMap
        (fun st => st.outcome (q.visit d st.member)) =
      (heard (q.answers s d memory w)).flatMap fun x => q.samples x.1 x.2 := by
    rw [flatMap_heard, answers, tour_of_directory hread, List.flatMap_map]
    exact congrArg (fun f => List.flatMap f _) (funext outcome_visit)
  rw [run, survey_of_directory hread]
  simp only
  rw [filled_visitAll, hvisits]
  rfl

/-- Members without an answer can be left out. -/
theorem heard_filter {keeps : Member → Bool} {answers : List (Member × Option α)}
    (h : ∀ x ∈ answers, keeps x.1 = false → x.2 = none) :
    heard (answers.filter fun x => keeps x.1) = heard answers := by
  rw [heard, heard, List.filterMap_filter]
  refine List.filterMap_congr fun x hx => ?_
  cases hkeeps : keeps x.1 with
  | true => rfl
  | false =>
    rw [h x hx hkeeps]
    rfl

end Inquiry

/-! ## The inquiries of the monitor -/

/-- What a lock server reports. -/
def Locks.inquiry (s : MonitoredSystem σ) : Inquiry σ LockStatistic where
  catalog := Locks.catalog
  purpose := "recordEnqStatistic collector error"
  matters m := m.provides "ENQUE"
  ask d m := do
    match ← (s.service.lockStatistic d m.endpoint : Work σ _) with
    | .error e =>
      (Work.warn ("EnqGetStatistic error, instance " ++ m.endpoint ++ ": " ++ e.message) :
        Work σ Unit)
      return none
    | .ok statistic => return some statistic
  digest m statistic := do
    (Work.noteAll (Locks.states.filterMap (Locks.stateNote? statistic)) : Work σ Unit)
    return Locks.samples statistic m.sharedLabels
  samples m statistic := Locks.samples statistic m.sharedLabels
  digests _ _ _ _ := rfl

theorem Locks.visit_eq (s : MonitoredSystem σ) :
    (Locks.inquiry s).visit = Locks.visit s := by
  funext d m memory w
  simp only [Inquiry.visit, Locks.inquiry, Locks.visit, Watch.bind_run, Watch.lift_run]
  cases (s.service.lockStatistic d m.endpoint w).1 <;> rfl

theorem Locks.collect_eq (s : MonitoredSystem σ) :
    (Locks.collector s).collect = (Locks.inquiry s).run s := by
  funext d
  rw [Inquiry.run, Locks.visit_eq]
  rfl

/-- The work processes of an instance. -/
def WorkProcesses.inquiry (s : MonitoredSystem σ) : Inquiry σ (List WorkProcess) where
  catalog := WorkProcesses.catalog
  purpose := "recordWorkProcessStats collector error"
  matters m := m.provides "ABAP"
  ask d m := do
    match ← (s.service.workProcesses d m.endpoint : Work σ _) with
    | .error e =>
      (Work.complain ("ABAPGetWPTable error " ++ e.message) : Work σ Unit)
      return none
    | .ok table => return some table
  digest m table := return WorkProcesses.samples m table
  samples := WorkProcesses.samples
  digests _ _ _ _ := rfl

theorem WorkProcesses.visit_eq (s : MonitoredSystem σ) :
    (WorkProcesses.inquiry s).visit = WorkProcesses.visit s := by
  funext d m memory w
  simp only [Inquiry.visit, WorkProcesses.inquiry, WorkProcesses.visit, Watch.bind_run,
    Watch.lift_run]
  cases (s.service.workProcesses d m.endpoint w).1 <;> rfl

theorem WorkProcesses.collect_eq (s : MonitoredSystem σ) :
    (WorkProcesses.collector s).collect = (WorkProcesses.inquiry s).run s := by
  funext d
  rw [Inquiry.run, WorkProcesses.visit_eq]
  rfl

/-- The queues of an instance with a dispatcher. -/
def Queues.inquiry (s : MonitoredSystem σ) : Inquiry σ (List Queue) where
  catalog := Queues.catalog
  purpose := "recordWorkProcessQueueStats collector error"
  matters _ := true
  ask d m := do
    match ← s.processes d m.endpoint with
    | .error e =>
      (Work.warn ("GetProcessList error, instance " ++ m.endpoint ++ ": " ++ e.message) :
        Work σ Unit)
      return none
    | .ok ps =>
      if Queues.hasDispatcher ps then
        match ← (s.service.queues d m.endpoint : Work σ _) with
        | .error e =>
          (Work.warn ("GetQueueStatistic error, instance " ++ m.endpoint ++ ": " ++ e.message) :
            Work σ Unit)
          return none
        | .ok queues => return some queues
      else return none
  digest m queues := return queues.flatMap (Queues.queueSamples m)
  samples m queues := queues.flatMap (Queues.queueSamples m)
  digests _ _ _ _ := rfl

theorem Queues.visit_eq (s : MonitoredSystem σ) :
    (Queues.inquiry s).visit = Queues.visit s := by
  funext d m memory w
  simp only [Inquiry.visit, Queues.inquiry, Queues.visit, Watch.bind_run]
  cases (s.processes d m.endpoint memory w).1.1 with
  | error e => rfl
  | ok ps =>
    simp only
    cases Queues.hasDispatcher ps with
    | false => rfl
    | true =>
      simp only [if_true, Watch.bind_run, Watch.lift_run]
      cases (s.service.queues d m.endpoint (s.processes d m.endpoint memory w).2).1 <;> rfl

theorem Queues.collect_eq (s : MonitoredSystem σ) :
    (Queues.collector s).collect = (Queues.inquiry s).run s := by
  funext d
  rw [Inquiry.run, Queues.visit_eq]
  rfl

/-- The processes of an instance. -/
def Instances.inquiry (s : MonitoredSystem σ) : Inquiry σ (List WatchedProcess) where
  catalog := Instances.catalog
  purpose := "recordProcesses collector error"
  matters _ := true
  ask d m := do
    match ← s.processes d m.endpoint with
    | .error e =>
      (Work.warn ("GetProcessList error: " ++ e.message) : Work σ Unit)
      return none
    | .ok ps => return some ps
  digest m ps := return Instances.processSamples m ps
  samples := Instances.processSamples
  digests _ _ _ _ := rfl

theorem Instances.collectProcesses_eq (s : MonitoredSystem σ) :
    (Instances.inquiry s).run s = Instances.collectProcesses s := by
  funext d
  refine congrArg (fun visit => survey s Instances.catalog "recordProcesses collector error"
    (fun _ => true) visit d) ?_
  funext d m memory w
  simp only [Inquiry.visit, Instances.inquiry, Watch.bind_run]
  cases (s.processes d m.endpoint memory w).1.1 <;> rfl

end SapMonitor.Scrape
