import SapMonitor.Proofs.Scrape.AlertLines

/-!
# Who is asked

A survey asks the members that matter, one after the other, and each of them once.  Who lacks
what a survey is about is not asked; without a directory nobody is.

Main results:

- `asked_survey`: a survey asks what its visits ask.
- `Locks.asksEach`, `WorkProcesses.asksEach` and `Alerts.asksEach`: surveys that ask every member
  that matters.
- `Queues.asked_collect`: queues are asked for where there is a dispatcher.
-/

namespace SapMonitor.Scrape

open Series (Catalog Family Sample)
open Landscape (Directory Member)
open Remote (Operation Outcome)

variable {σ : Type}

section Survey

variable {s : MonitoredSystem (σ × List Sent)} {catalog : Catalog} {purpose : String}
  {matters : Member → Bool} {visit : Deadline → Member → Watch (σ × List Sent) (List Sample)}
  {d : Deadline} {memory memory' : Memory} {w w' : World (σ × List Sent)} {directory : Directory}

/-- A survey asks what its visits ask, stop by stop. -/
theorem asked_survey {operation : Operation} (more : Stop (σ × List Sent) → List String)
    (hvisit : ∀ m memory w, asked operation (visit d m memory w).2.sent =
      asked operation w.sent ++ more ⟨m, memory, w⟩)
    (h : s.directory d memory w = ((.ok directory, memory'), w')) :
    asked operation (survey s catalog purpose matters visit d memory w).2.sent =
      asked operation w'.sent ++
        (stops (visit d) (.empty catalog) (directory.members.filter matters) memory' w').flatMap
          more := by
  rw [survey_of_directory h]
  refine (view_visitAll (fun _ w => asked operation w.sent) (fun st x => x ++ more st)
    (fun _ _ _ => rfl) hvisit _ _ _ _).trans ?_
  rw [List.foldl_append_eq_append, List.flatMap_def]

end Survey

/-! ## One question for each member -/

/-- A collector asks every member that matters one question, and no other. -/
def AsksEach (s : MonitoredSystem σ)
    (collect : Deadline → Watch (σ × List Sent) (Outcome (List Family))) (question : Operation)
    (matters : Member → Bool) : Prop :=
  ∀ d memory w directory memory' w',
    s.recorded.directory d memory w = ((.ok directory, memory'), w') → ∀ operation,
      asked operation (collect d memory w).2.sent = asked operation w'.sent ++
        if question = operation then (directory.members.filter matters).map Member.endpoint else []

/-- A survey does so if its visits do. -/
theorem asksEach_survey {s : MonitoredSystem σ} {catalog : Catalog} {purpose : String}
    {matters : Member → Bool} {visit : Deadline → Member → Watch (σ × List Sent) (List Sample)}
    {question : Operation}
    (hvisit : ∀ d m memory w operation, asked operation (visit d m memory w).2.sent =
      asked operation w.sent ++ asked operation [.call question m.endpoint]) :
    AsksEach s (survey s.recorded catalog purpose matters visit) question matters := by
  intro d memory w directory memory' w' h operation
  rw [asked_survey (fun st => asked operation [.call question st.member.endpoint])
    (fun m memory w => hvisit d m memory w operation) h]
  simp only [asked_call]
  split
  · have hmembers := members_stops (visit d) (.empty catalog)
      (directory.members.filter matters) memory' w'
    rw [← List.map_eq_flatMap, ← congrArg (List.map Member.endpoint) hmembers, List.map_map]
    rfl
  · simp

/-- The lock server is asked for where it runs. -/
theorem Locks.asksEach (s : MonitoredSystem σ) :
    AsksEach s (Locks.collector s.recorded).collect .lockStatistic
      (fun m => m.provides "ENQUE") := by
  refine asksEach_survey fun d m memory w operation => ?_
  rw [← asked_append]
  congr 1
  have hcall : (s.recorded.service.lockStatistic d m.endpoint w).2.sent =
      w.sent ++ [.call .lockStatistic m.endpoint] := rfl
  simp only [Locks.visit, Watch.bind_run, Watch.lift_run]
  cases h : s.recorded.service.lockStatistic d m.endpoint w with
  | mk outcome w' =>
    rw [h] at hcall
    cases outcome with
    | error e => exact hcall
    | ok statistic =>
      simp only [Watch.bind_run, Watch.lift_run, noteAll_run]
      exact hcall

/-- Work processes are asked for where programs run. -/
theorem WorkProcesses.asksEach (s : MonitoredSystem σ) :
    AsksEach s (WorkProcesses.collector s.recorded).collect .workProcesses
      (fun m => m.provides "ABAP") := by
  refine asksEach_survey fun d m memory w operation => ?_
  rw [← asked_append]
  congr 1
  have hcall : (s.recorded.service.workProcesses d m.endpoint w).2.sent =
      w.sent ++ [.call .workProcesses m.endpoint] := rfl
  simp only [WorkProcesses.visit, Watch.bind_run, Watch.lift_run]
  cases h : s.recorded.service.workProcesses d m.endpoint w with
  | mk outcome w' =>
    rw [h] at hcall
    cases outcome <;> exact hcall

/-- Every member is asked for its alerts. -/
theorem Alerts.asksEach (s : MonitoredSystem σ) (p : Alerts.Policy)
    (outlet : Option (Alerts.Outlet σ)) :
    AsksEach s (Alerts.collector s.recorded p (outlet.map Alerts.Outlet.recorded)).collect .alerts
      (fun _ => true) := by
  refine asksEach_survey fun d m memory w operation => ?_
  rw [← asked_append, ← Alerts.visit_eq]
  cases outlet with
  | some o =>
    have htraffic := congrArg Prod.fst (Alerts.traffic_visit s p o d m memory w)
    exact (congrArg (asked operation) htraffic).trans (Alerts.asked_hand o _ _ operation)
  | none =>
    congr 1
    have hcall : (s.recorded.service.alerts d m.endpoint w).2.sent =
        w.sent ++ [.call .alerts m.endpoint] := rfl
    simp only [Inquiry.visit, Alerts.inquiry, Option.map_none, Watch.bind_run, Watch.lift_run]
    cases h : s.recorded.service.alerts d m.endpoint w with
    | mk outcome w' =>
      rw [h] at hcall
      cases outcome with
      | error e => exact hcall
      | ok tree =>
        simp only [Watch.pure_run, Alerts.report_run]
        exact (congrArg Prod.fst (Alerts.traffic_handleAll_none p m _ memory w')).trans hcall

/-! ## Queues -/

/-- Whether the process list of the member of a stop shows a dispatcher. -/
def Queues.showsDispatcher (s : MonitoredSystem σ) (d : Deadline) (st : Stop σ) : Bool :=
  match st.outcome (s.processes d st.member.endpoint) with
  | .ok ps => Queues.hasDispatcher ps
  | .error _ => false

/-- A visit asks for the queues if the process list shows a dispatcher. -/
theorem Queues.asked_visit (s : MonitoredSystem σ) (d : Deadline) (m : Member) (memory : Memory)
    (w : World (σ × List Sent)) {operation : Operation} (hoperation : .processes ≠ operation) :
    asked operation (Queues.visit s.recorded d m memory w).2.sent =
      asked operation w.sent ++
        if Queues.showsDispatcher s.recorded d ⟨m, memory, w⟩ then
          asked operation [.call .queues m.endpoint]
        else [] := by
  have hread : asked operation (s.recorded.processes d m.endpoint memory w).2.sent =
      asked operation w.sent := by
    rcases s.sent_processes d m.endpoint memory w with h | h
    · rw [h]
    · rw [h, asked_append, asked_call, if_neg hoperation, List.append_nil]
  rw [← hread]
  simp only [Queues.visit, Watch.bind_run]
  cases hps : (s.recorded.processes d m.endpoint memory w).1.1 with
  | error e =>
    have hshows : Queues.showsDispatcher s.recorded d ⟨m, memory, w⟩ = false := by
      simp only [Queues.showsDispatcher, Stop.outcome, hps]
    rw [hshows]
    exact (List.append_nil _).symm
  | ok ps =>
    have hshows : Queues.showsDispatcher s.recorded d ⟨m, memory, w⟩ = Queues.hasDispatcher ps := by
      simp only [Queues.showsDispatcher, Stop.outcome, hps]
    rw [hshows]
    simp only
    cases Queues.hasDispatcher ps with
    | false => exact (List.append_nil _).symm
    | true =>
      have hcall : (s.recorded.service.queues d m.endpoint
          (s.recorded.processes d m.endpoint memory w).2).2.sent =
            (s.recorded.processes d m.endpoint memory w).2.sent ++
              [.call .queues m.endpoint] := rfl
      simp only [if_true, Watch.bind_run, Watch.lift_run]
      rw [← asked_append, ← hcall]
      congr 1
      cases (s.recorded.service.queues d m.endpoint
        (s.recorded.processes d m.endpoint memory w).2).1 <;> rfl

theorem flatMap_guard {α β : Type} (l : List α) (p : α → Bool) (f : α → β) :
    (l.flatMap fun a => if p a then [f a] else []) = (l.filter p).map f := by
  induction l with
  | nil => rfl
  | cons a l ih => cases h : p a <;> simp [h, ih]

/-- Members are asked for their process lists, if these are not remembered, and for their queues
where the process list shows a dispatcher. -/
theorem Queues.asked_collect {s : MonitoredSystem σ} {d : Deadline} {memory memory' : Memory}
    {w w' : World (σ × List Sent)} {directory : Directory}
    (h : s.recorded.directory d memory w = ((.ok directory, memory'), w')) {operation : Operation}
    (hoperation : .processes ≠ operation) :
    asked operation ((Queues.collector s.recorded).collect d memory w).2.sent =
      asked operation w'.sent ++
        if .queues = operation then
          (((Queues.inquiry s.recorded).tour s.recorded d memory w).filter
            (Queues.showsDispatcher s.recorded d)).map fun st => st.member.endpoint
        else [] := by
  refine (asked_survey (fun st => if Queues.showsDispatcher s.recorded d st then
    asked operation [.call .queues st.member.endpoint] else [])
    (fun m memory w => Queues.asked_visit s d m memory w hoperation) h).trans ?_
  rw [Inquiry.tour_of_directory h, Queues.visit_eq]
  congr 1
  simp only [asked_call]
  split
  · exact flatMap_guard _ _ _
  · simp

end SapMonitor.Scrape
