import SapMonitor.Work

/-!
# Tasks side by side

A fan-out does the same task for every item of a list, several at a time.  A task
takes off, and lands with a result or is lost; where the number of tasks in flight
is limited, a task waits until there is room.  Tasks can take off and land in any
order, and a course is what they do in one of these orders.  The results are put
back into the order of the items by their positions.  A limit is kept with permits,
of which there cannot be any number.

A run of a fan-out lets the items take off in order and the tasks land as they end.

Main results:

- `gather_length`: there is one place for each item.
- `find?_eq_of_nodup`: a landing is found by its position.
-/

namespace SapMonitor.Landscape

/-- The end of a task: the position of its item, the time, and the result
unless the task was lost. -/
structure Landing (ρ : Type) where
  position : Nat
  time : Nat
  result : Option ρ

/-! ## Fleets -/

/-- What can happen to a task. -/
inductive Move (ρ : Type) where
  | takeOff (position : Nat)
  | land (landing : Landing ρ)

/-- The tasks that wait and those in flight, by the positions of their items. -/
structure Fleet where
  limit : Nat
  waiting : List Nat
  flying : List Nat

/-- Whether one more task can take off; a limit of zero is none. -/
def hasRoom (limit inFlight : Nat) : Bool :=
  limit = 0 || inFlight < limit

/-- How many permits there can be. -/
def maxPermits : Nat := Nat.pow 2 61 - 1

namespace Fleet

variable {ρ : Type}

/-- The fleet before anything happens. -/
def ready (limit count : Nat) : Fleet :=
  ⟨limit, List.range count, []⟩

/-- Whether every task has landed. -/
def isDone (f : Fleet) : Bool :=
  f.waiting.isEmpty && f.flying.isEmpty

/-- The fleet after a move, if the move is possible. -/
def move? (f : Fleet) : Move ρ → Option Fleet
  | .takeOff p =>
    if f.waiting.contains p && hasRoom f.limit f.flying.length then
      some { f with waiting := f.waiting.erase p, flying := p :: f.flying }
    else none
  | .land l =>
    if f.flying.contains l.position then
      some { f with flying := f.flying.erase l.position }
    else none

/-- The fleet after a course of moves, if all of them are possible. -/
def run? (f : Fleet) : List (Move ρ) → Option Fleet
  | [] => some f
  | m :: course => (f.move? m).bind fun f => f.run? course

end Fleet

namespace FanOut

variable {σ α ρ : Type}

/-- The landings of a course. -/
def landings (course : List (Move ρ)) : List (Landing ρ) :=
  course.filterMap fun
    | .takeOff _ => none
    | .land l => some l

/-! ## Runs -/

/-- The landings to come with one more, in the order of their times. -/
def expect (l : Landing ρ) : List (Landing ρ) → List (Landing ρ)
  | [] => [l]
  | k :: due => if k.time ≤ l.time then k :: expect l due else l :: k :: due

/-- When the next task takes off: at the start if there is room, or else when the next
one has landed.  The moves until then, and the landings that are still to come. -/
def makeRoom (limit start : Nat) (due : List (Landing ρ)) :
    Nat × List (Move ρ) × List (Landing ρ) :=
  if hasRoom limit due.length then (start, [], due)
  else
    match due with
    | [] => (start, [], [])
    | l :: due => (l.time, [.land l], due)

/-- Lets the tasks of the items take off from a position on, and all of them land. -/
def launch (limit start : Nat) (task : α → Work σ (Option ρ)) :
    Nat → List (Landing ρ) → List α → Work σ (List (Move ρ))
  | _, due, [] => return due.map .land
  | position, due, item :: rest => do
    let (time, landed, due) := makeRoom limit start due
    Work.setClock time
    let result ← task item
    let finish ← Work.now
    let course ← launch limit start task (position + 1) (expect ⟨position, finish, result⟩ due) rest
    return landed ++ .takeOff position :: course

/-- Does the task for every item, at most `limit` at a time unless that is zero.  The
last landing sets the clock. -/
def run (limit : Nat) (task : α → Work σ (Option ρ)) (items : List α) :
    Work σ (List (Move ρ)) := do
  let start ← Work.now
  let course ← launch limit start task 0 [] items
  Work.setClock ((landings course).foldl (fun t l => max t l.time) start)
  return course

/-! ## Results -/

/-- The result that landed for a position. -/
def resultAt (landings : List (Landing ρ)) (position : Nat) : Option ρ :=
  (landings.find? fun l => l.position == position).bind Landing.result

/-- The results in the order of the items. -/
def gather (count : Nat) (landings : List (Landing ρ)) : List (Option ρ) :=
  (List.range count).map (resultAt landings)

/-- There is one place for each item. -/
@[simp] theorem gather_length (count : Nat) (landings : List (Landing ρ)) :
    (gather count landings).length = count := by
  simp [gather]

/-- A landing is found by its position if no other has it. -/
theorem find?_eq_of_nodup {landings : List (Landing ρ)} {l : Landing ρ}
    (h : (landings.map Landing.position).Nodup) (hl : l ∈ landings) :
    landings.find? (fun k => k.position == l.position) = some l := by
  induction landings with
  | nil => cases hl
  | cons k rest ih =>
    simp only [List.map_cons, List.nodup_cons] at h
    rcases List.mem_cons.1 hl with rfl | hr
    · simp
    · have hk : k.position ≠ l.position := fun he =>
        h.1 (he ▸ List.mem_map_of_mem hr)
      simp [hk, ih h.2 hr]

end FanOut

end SapMonitor.Landscape
