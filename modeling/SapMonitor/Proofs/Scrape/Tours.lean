import SapMonitor.Proofs.Series.Recording
import SapMonitor.Scrape.Survey

/-!
# Tours of a directory

A survey goes from member to member and records what every visit yields before the next one
begins.  Its tour is the list of its stops: the members that it comes to, each with the memory
and the world in which the visit begins.  Whatever a survey hands out or does is what it does
at its stops, one after the other.

Main results:

- `survey_of_error` and `survey_of_directory`: the two courses of a survey.
- `filled_visitAll`: the buffer of a survey holds what the visits yield at the stops.
- `view_visitAll`: what a survey changes, it changes at the stops.
-/

namespace SapMonitor.Scrape

open Series (Buffer Catalog Family Sample)
open Landscape (Directory Member)
open Remote (Outcome RemoteError)

variable {σ : Type}

/-- What a watch ends with: what it yields, the memory and the world. -/
theorem ending_eq {α : Type} {r : (α × Memory) × World σ} {a : α} (h : r.1.1 = a) :
    r = ((a, r.1.2), r.2) :=
  Prod.ext (Prod.ext h rfl) rfl

/-! ## Recording -/

theorem recordAll_append (b : Buffer) (before after : List Sample) :
    (b.recordAll (before ++ after)).1 = ((b.recordAll before).1.recordAll after).1 := by
  induction before generalizing b with
  | nil => rfl
  | cons s before ih => exact ih (b.record s).1

/-- Notes take no time and do not reach the peer. -/
theorem noteAll_run (notes : List Note) (w : World σ) :
    Work.noteAll notes w = ((), { w with journal := notes.reverse ++ w.journal }) := by
  induction notes generalizing w with
  | nil => rfl
  | cons n notes ih =>
    have hrest := ih { w with journal := n :: w.journal }
    rw [List.reverse_cons, List.append_assoc]
    exact hrest

/-- Recording fills the buffer, and leaves notes on the samples that are rejected. -/
theorem record_run (b : Buffer) (samples : List Sample) (w : World σ) :
    record b samples w =
      ((b.recordAll samples).1,
        { w with
          journal := (rejectionNotes b.catalog.subsystem (b.recordAll samples).2).reverse ++
            w.journal }) := by
  have hnotes := noteAll_run (rejectionNotes b.catalog.subsystem (b.recordAll samples).2) w
  exact congrArg (fun r : Unit × World σ => ((b.recordAll samples).1, r.2)) hnotes

/-! ## Stops -/

/-- A visit that begins: whom it is paid to, and the memory and the world at that time. -/
structure Stop (σ : Type) where
  member : Member
  memory : Memory
  world : World σ

/-- What an activity comes to when it begins at a stop. -/
def Stop.outcome {α : Type} (st : Stop σ) (x : Watch σ α) : α :=
  (x st.memory st.world).1.1

/-- The stops of a tour of members. -/
def stops (visit : Member → Watch σ (List Sample)) (b : Buffer) :
    List Member → Memory → World σ → List (Stop σ)
  | [], _, _ => []
  | m :: rest, memory, w =>
    let visited := visit m memory w
    let recorded := record b visited.1.1 visited.2
    ⟨m, memory, w⟩ :: stops visit recorded.1 rest visited.1.2 recorded.2

section Stops

variable {visit : Member → Watch σ (List Sample)}

/-- A tour comes to all members in their order. -/
theorem members_stops (visit : Member → Watch σ (List Sample)) (b : Buffer)
    (members : List Member) (memory : Memory) (w : World σ) :
    (stops visit b members memory w).map Stop.member = members := by
  induction members generalizing b memory w with
  | nil => rfl
  | cons m rest ih => rw [stops, List.map_cons, ih]

/-- The buffer after a tour holds what the visits yielded, in order. -/
theorem filled_visitAll (b : Buffer) (members : List Member) (memory : Memory) (w : World σ) :
    (visitAll visit b members memory w).1.1 =
      (b.recordAll ((stops visit b members memory w).flatMap fun st =>
        st.outcome (visit st.member))).1 := by
  induction members generalizing b memory w with
  | nil => rfl
  | cons m rest ih =>
    rw [stops, List.flatMap_cons, recordAll_append]
    have hrest := ih (record b (visit m memory w).1.1 (visit m memory w).2).1
      (visit m memory w).1.2 (record b (visit m memory w).1.1 (visit m memory w).2).2
    exact hrest

/-- What every visit changes in its own way, and notes do not, is changed at the stops one after
the other. -/
theorem view_visitAll {β : Type} (view : Memory → World σ → β) (change : Stop σ → β → β)
    (hnotes : ∀ memory w journal, view memory { w with journal := journal } = view memory w)
    (hvisit : ∀ m memory w, view (visit m memory w).1.2 (visit m memory w).2 =
      change ⟨m, memory, w⟩ (view memory w))
    (b : Buffer) (members : List Member) (memory : Memory) (w : World σ) :
    view (visitAll visit b members memory w).1.2 (visitAll visit b members memory w).2 =
      (stops visit b members memory w).foldl (fun x st => change st x) (view memory w) := by
  induction members generalizing b memory w with
  | nil => rfl
  | cons m rest ih =>
    have hrest := ih (record b (visit m memory w).1.1 (visit m memory w).2).1
      (visit m memory w).1.2 (record b (visit m memory w).1.1 (visit m memory w).2).2
    -- recording the samples leaves notes, which the view does not show
    have hfirst : view (visit m memory w).1.2
        (record b (visit m memory w).1.1 (visit m memory w).2).2 =
          change ⟨m, memory, w⟩ (view memory w) := by
      rw [record_run, hnotes, hvisit]
    rw [hfirst] at hrest
    exact hrest

end Stops

/-! ## Surveys -/

section Survey

variable {s : MonitoredSystem σ} {catalog : Catalog} {purpose : String} {matters : Member → Bool}
  {visit : Deadline → Member → Watch σ (List Sample)} {d : Deadline} {memory memory' : Memory}
  {w w' : World σ}

/-- A survey without a directory fails and does nothing else. -/
theorem survey_of_error {e : RemoteError}
    (h : s.directory d memory w = ((.error e, memory'), w')) :
    survey s catalog purpose matters visit d memory w =
      ((.error (.within purpose e), memory'), w') := by
  simp only [survey, Watch.bind_run, h]
  rfl

/-- A survey with a directory tours the members that matter. -/
theorem survey_of_directory {directory : Directory}
    (h : s.directory d memory w = ((.ok directory, memory'), w')) :
    survey s catalog purpose matters visit d memory w =
      let toured :=
        visitAll (visit d) (.empty catalog) (directory.members.filter matters) memory' w'
      ((.ok toured.1.1.families, toured.1.2), toured.2) := by
  simp only [survey, Watch.bind_run, h]
  rfl

end Survey

end SapMonitor.Scrape
