import SapMonitor.Proofs.Monitor.RememberedLists
import SapMonitor.Proofs.Scrape.Accounts
import SapMonitor.Proofs.Scrape.Tallies

/-!
# Reports of counts

The collectors that count hand in one batch for every member that they ask.  The batch is made of
the answer of that member alone, so that no member has a share in the counts of another one, and it
counts all of the answer.

Main results:

- `Inquiry.handsInEach`: an inquiry hands in a batch for each answer.
- `Instances.reportsCounts`: what is handed in for the process lists.
- `WorkProcesses.reportsCounts`: what is handed in for the tables of work processes.
- `counts_conserved`: both collectors of a program.
-/

namespace SapMonitor.Scrape

open Series (Buffer Catalog Family Sample)
open Landscape (Member WatchedProcess watched)
open Program (Running)
open Remote (Outcome WorkProcess)
open Time (Moment)

variable {σ α : Type}

/-! ## Batches and stops -/

/-- What is handed in on a tour is what the visits yield at its stops. -/
theorem samples_accountedTour (visit : Member → Watch σ (List Sample)) (b : Buffer)
    (members : List Member) (memory : Memory) (w : World σ) :
    (accountedTour visit b members memory w).1.1.2.map Batch.samples =
      (stops visit b members memory w).map fun st => st.outcome (visit st.member) := by
  induction members generalizing b memory w with
  | nil => rfl
  | cons m rest ih =>
    have hrest := ih (record b (visit m memory w).1.1 (visit m memory w).2).1
      (visit m memory w).1.2 (record b (visit m memory w).1.1 (visit m memory w).2).2
    exact congrArg ((visit m memory w).1.1 :: ·) hrest

/-- Every batch of a survey is what a visit yields at a stop. -/
theorem exists_stop_of_mem_accountedSurvey {s : MonitoredSystem σ} {catalog : Catalog}
    {purpose : String} {matters : Member → Bool} {visit : Deadline → Member → Watch σ (List Sample)}
    {d : Deadline} {memory : Memory} {w : World σ} {x : Batch}
    (hx : x ∈ (accountedSurvey s catalog purpose matters visit d memory w).1.1.2) :
    ∃ st : Stop σ, x.samples = st.outcome (visit d st.member) := by
  simp only [accountedSurvey, Watch.bind_run] at hx
  cases hread : (s.directory d memory w).1.1 with
  | error e =>
    rw [hread] at hx
    cases hx
  | ok directory =>
    rw [hread] at hx
    have hsamples : x.samples ∈ (stops (visit d) (.empty catalog)
        (directory.members.filter matters) (s.directory d memory w).1.2
        (s.directory d memory w).2).map fun st => st.outcome (visit d st.member) := by
      rw [← samples_accountedTour]
      exact List.mem_map_of_mem hx
    obtain ⟨st, -, hst⟩ := List.mem_map.1 hsamples
    exact ⟨st, hst.symm⟩

/-- Batches that are handed in for answers, one for each. -/
structure Inquiry.HandsInEach (q : Inquiry σ α) (s : MonitoredSystem σ) (d : Deadline)
    (memory : Memory) (w : World σ) (batches : List Batch) : Prop where
  /-- The members of the directory that matter are asked, one after the other. -/
  asked : ∀ directory, (s.directory d memory w).1.1 = .ok directory →
    (q.answers s d memory w).map Prod.fst = directory.members.filter q.matters
  /-- Each of them has a batch, which is made of its own answer.  It is empty if there is no
  answer. -/
  handed : batches.map Batch.samples =
    (q.answers s d memory w).map fun x => x.2.elim [] (q.samples x.1)

/-- An inquiry hands in a batch for each answer. -/
theorem Inquiry.handsInEach (q : Inquiry σ α) (s : MonitoredSystem σ) (d : Deadline)
    (memory : Memory) (w : World σ) :
    q.HandsInEach s d memory w (q.accounted s d memory w).1.1.2 where
  asked _ h := members_answers h
  handed := by
    rw [answers, List.map_map, accounted, accountedSurvey]
    simp only [Watch.bind_run]
    cases hread : (s.directory d memory w).1.1 with
    | error e =>
      have htour : q.tour s d memory w = [] := by rw [tour, ending_eq hread]
      rw [htour]
      rfl
    | ok directory =>
      rw [tour_of_directory (ending_eq hread)]
      refine (samples_accountedTour ..).trans (List.map_congr_left fun st _ => ?_)
      exact outcome_visit st

/-- In any two runs, who gives the same answer has the same batch, whatever the others answer. -/
def Inquiry.Separate (q : Inquiry σ α) (s : MonitoredSystem σ) : Prop :=
  ∀ d memory w d' memory' w' (i j : Nat),
    (q.answers s d memory w)[i]? = (q.answers s d' memory' w')[j]? →
    ((q.accounted s d memory w).1.1.2.map Batch.samples)[i]? =
      ((q.accounted s d' memory' w').1.1.2.map Batch.samples)[j]?

theorem Inquiry.separate (q : Inquiry σ α) (s : MonitoredSystem σ) : q.Separate s := by
  intro d memory w d' memory' w' i j h
  rw [(q.handsInEach s d memory w).handed, (q.handsInEach s d' memory' w').handed,
    List.getElem?_map, List.getElem?_map, h]

/-- What the visits of a tour keep holds at each of its stops. -/
theorem keeps_stops {P : Memory → Prop} {visit : Member → Watch σ (List Sample)}
    (hvisit : ∀ m, Watch.Keeps P (visit m)) {b : Buffer} {members : List Member} {memory : Memory}
    {w : World σ} (hmemory : P memory) {st : Stop σ} (hst : st ∈ stops visit b members memory w) :
    P st.memory := by
  induction members generalizing b memory w with
  | nil => cases hst
  | cons m rest ih =>
    rcases List.mem_cons.1 hst with rfl | hst
    · exact hmemory
    · exact ih (hvisit m memory w hmemory) hst

/-! ## Process lists -/

namespace Instances

variable {s : MonitoredSystem σ}

/-- A member answers if its process list can be read. -/
theorem outcome_ask (d : Deadline) (st : Stop σ) :
    st.outcome ((inquiry s).ask d st.member) =
      (st.outcome (s.processes d st.member.endpoint)).toOption := by
  simp only [Stop.outcome, inquiry, Watch.bind_run]
  cases (s.processes d st.member.endpoint st.memory st.world).1.1 <;> rfl

/-- Every answer is a list of watched processes. -/
theorem exists_listed_of_mem_answers {d : Deadline} {memory : Memory} {w : World σ}
    (hmemory : memory.Genuine) {m : Member} {ps : List WatchedProcess}
    (h : (m, some ps) ∈ (inquiry s).answers s d memory w) : ∃ listed, ps = watched listed := by
  obtain ⟨st, hst, heq⟩ := List.mem_map.1 h
  obtain ⟨-, hanswer⟩ := Prod.mk.inj heq
  have hgenuine : st.memory.Genuine := by
    cases hread : (s.directory d memory w).1.1 with
    | error e =>
      rw [Inquiry.tour, ending_eq hread] at hst
      cases hst
    | ok directory =>
      rw [Inquiry.tour_of_directory (ending_eq hread)] at hst
      exact keeps_stops (keeps_visit d) (s.keeps_directory d memory w hmemory) hst
  rw [outcome_ask] at hanswer
  cases hlist : st.outcome (s.processes d st.member.endpoint) with
  | error e =>
    rw [hlist] at hanswer
    cases hanswer
  | ok list =>
    rw [hlist] at hanswer
    cases hanswer
    exact hgenuine.answer hlist

/-- The collector of instances and processes hands in what counts the process lists. -/
structure ReportsCounts (s : MonitoredSystem σ) : Prop where
  /-- Keeping account changes nothing. -/
  same : ∀ d memory w, forget (accounted s d memory w) = (collector s).collect d memory w
  /-- All members are asked. -/
  matters : ∀ m, (inquiry s).matters m = true
  /-- A member answers if its process list can be read. -/
  readable : ∀ d (st : Stop σ), st.outcome ((inquiry s).ask d st.member) =
    (st.outcome (s.processes d st.member.endpoint)).toOption
  /-- No member has a share in the batch of another one. -/
  separate : (inquiry s).Separate s
  /-- When the instances are collected, there is a batch for the process list of every member.  If
  the list can be read, the batch counts the processes that were listed. -/
  handed : ∀ d memory w families memory' w', memory.Genuine →
    collectInstances s d memory w = ((families, memory'), w') →
    ∃ instances processes, (accounted s d memory w).1.1.2 = instances ++ processes ∧
      (∀ b ∈ instances, ∃ m, b.samples = [instanceSample m]) ∧
      (inquiry s).HandsInEach s d memory' w' processes ∧
      ∀ m ps, (m, some ps) ∈ (inquiry s).answers s d memory' w' →
        ∃ listed, ps = watched listed ∧ CountsProcesses m listed ((inquiry s).samples m ps)

theorem reportsCounts (s : MonitoredSystem σ) : ReportsCounts s where
  same := (handsIn s).same
  matters _ := rfl
  readable := outcome_ask
  separate := (inquiry s).separate s
  handed d memory w families memory' w' hmemory hinstances := by
    have hgenuine : memory'.Genuine := by
      have hkept : (collectInstances s d memory w).1.2.Genuine :=
        keeps_survey (fun _ _ => .pure _) d memory w hmemory
      rwa [hinstances] at hkept
    let shown := accountedSurvey s catalog "recordInstances collector error" (fun _ => true)
      (fun _ m => return [instanceSample m]) d memory w
    have hforget : forget shown = ((families, memory'), w') :=
      (accountedSurvey_erase ..).trans hinstances
    obtain rfl : shown.1.2 = memory' := congrArg (fun r => r.1.2) hforget
    obtain rfl : shown.2 = w' := congrArg Prod.snd hforget
    refine ⟨shown.1.1.2, ((inquiry s).accounted s d shown.1.2 shown.2).1.1.2, rfl, ?_,
      (inquiry s).handsInEach s d _ _, ?_⟩
    · intro b hb
      obtain ⟨st, hst⟩ := exists_stop_of_mem_accountedSurvey hb
      exact ⟨st.member, hst⟩
    · intro m ps h
      obtain ⟨listed, rfl⟩ := exists_listed_of_mem_answers hgenuine h
      exact ⟨listed, rfl, countsProcesses m listed⟩

end Instances

/-! ## Tables of work processes -/

namespace WorkProcesses

variable {s : MonitoredSystem σ}

/-- A member answers if its table can be read. -/
theorem outcome_ask (d : Deadline) (st : Stop σ) :
    st.outcome ((inquiry s).ask d st.member) =
      (s.service.workProcesses d st.member.endpoint st.world).1.toOption := by
  simp only [Stop.outcome, inquiry, Watch.bind_run, Watch.lift_run]
  cases (s.service.workProcesses d st.member.endpoint st.world).1 <;> rfl

/-- The collector of work processes hands in what counts the tables. -/
structure ReportsCounts (s : MonitoredSystem σ) : Prop where
  /-- Keeping account changes nothing. -/
  same : ∀ d memory w,
    forget ((inquiry s).accounted s d memory w) = (collector s).collect d memory w
  /-- Members that run programs are asked. -/
  matters : ∀ m, (inquiry s).matters m = m.provides "ABAP"
  /-- A member answers if its table can be read. -/
  readable : ∀ d (st : Stop σ), st.outcome ((inquiry s).ask d st.member) =
    (s.service.workProcesses d st.member.endpoint st.world).1.toOption
  /-- No member has a share in the batch of another one. -/
  separate : (inquiry s).Separate s
  /-- There is a batch for every member that is asked.  If the table can be read, the batch counts
  the work processes in it. -/
  handed : ∀ d memory w,
    (inquiry s).HandsInEach s d memory w ((inquiry s).accounted s d memory w).1.1.2 ∧
      ∀ m table, CountsWork m table ((inquiry s).samples m table)

theorem reportsCounts (s : MonitoredSystem σ) : ReportsCounts s where
  same d memory w := by
    rw [collect_eq]
    exact accountedSurvey_erase ..
  matters _ := rfl
  readable := outcome_ask
  separate := (inquiry s).separate s
  handed d memory w := ⟨(inquiry s).handsInEach s d memory w, countsWork⟩

end WorkProcesses

/-! ## Programs -/

/-- The counts of a program are those of what it is told. -/
structure CountsConserved (r : Running σ) : Prop where
  /-- Whatever it does, the process lists that it remembers were listed. -/
  genuine : ∀ memory, r.Reached memory → memory.Genuine
  processes : Instances.ReportsCounts r.system
  workProcesses : WorkProcesses.ReportsCounts r.system

/-- No process and no work process is lost, counted twice, or counted for another member. -/
theorem counts_conserved (settings : Settings) (service : Remote.ControlService σ)
    (network : Http.Network σ) (readingsAt : Nat → Nat → Alerts.Readings) :
    CountsConserved (Program.assemble settings service network readingsAt).1 where
  genuine _ h := h.genuine
  processes := Instances.reportsCounts _
  workProcesses := WorkProcesses.reportsCounts _

end SapMonitor.Scrape
