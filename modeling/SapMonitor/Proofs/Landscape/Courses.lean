import SapMonitor.Landscape.FanOut

/-!
# Courses of a fan-out

Tasks can take off and land in any order that leaves room.  Whatever the order is, the
tasks are accounted for: each of them waits, is in flight or has landed, and none is two of
these at a time.  So a course that is over has let each task take off once and land once,
and the results that it gathers are those of the tasks, by their positions.

Main results:

- `Accounts.run`: along every course the tasks are accounted for.
- `IsCourse.gather`: a course gathers what the tasks have brought.
- `exists_course`: every course can be continued until it is over.
- `FanOut.launch_run?`: what a run of a fan-out does is a course.
-/

namespace SapMonitor.Landscape

open FanOut

variable {ρ : Type}

/-! ## Moves -/

/-- The positions of the tasks that take off in a course, in order. -/
def takeOffs (course : List (Move ρ)) : List Nat :=
  course.filterMap fun
    | .takeOff p => some p
    | .land _ => none

/-- The positions of the tasks that land in a course, in order. -/
def landed (course : List (Move ρ)) : List Nat :=
  (landings course).map Landing.position

namespace Fleet

theorem move?_takeOff {f f' : Fleet} {p : Nat} (h : f.move? (.takeOff p : Move ρ) = some f') :
    p ∈ f.waiting ∧ hasRoom f.limit f.flying.length = true ∧
      f' = { f with waiting := f.waiting.erase p, flying := p :: f.flying } := by
  simp only [move?] at h
  split at h
  · rename_i hp
    rw [Bool.and_eq_true, List.contains_iff_mem] at hp
    cases h
    exact ⟨hp.1, hp.2, rfl⟩
  · cases h

theorem move?_land {f f' : Fleet} {l : Landing ρ} (h : f.move? (.land l) = some f') :
    l.position ∈ f.flying ∧ f' = { f with flying := f.flying.erase l.position } := by
  simp only [move?] at h
  split at h
  · rename_i hp
    rw [List.contains_iff_mem] at hp
    cases h
    exact ⟨hp, rfl⟩
  · cases h

theorem move?_takeOff_of {f : Fleet} {p : Nat} (hp : p ∈ f.waiting)
    (hr : hasRoom f.limit f.flying.length = true) :
    f.move? (.takeOff p : Move ρ) =
      some { f with waiting := f.waiting.erase p, flying := p :: f.flying } := by
  refine if_pos ?_
  rw [Bool.and_eq_true, List.contains_iff_mem]
  exact ⟨hp, hr⟩

theorem move?_land_of {f : Fleet} {l : Landing ρ} (hl : l.position ∈ f.flying) :
    f.move? (.land l) = some { f with flying := f.flying.erase l.position } := by
  refine if_pos ?_
  rw [List.contains_iff_mem]
  exact hl

theorem run?_cons {f f' : Fleet} {m : Move ρ} {course : List (Move ρ)}
    (h : f.run? (m :: course) = some f') : ∃ f₁, f.move? m = some f₁ ∧ f₁.run? course = some f' :=
  Option.bind_eq_some_iff.1 h

theorem run?_cons_of {f f₁ : Fleet} {m : Move ρ} (h : f.move? m = some f₁)
    (course : List (Move ρ)) : f.run? (m :: course) = f₁.run? course := by
  rw [run?, h, Option.bind_some]

/-- A course goes on from where an earlier one ends. -/
theorem run?_append (f : Fleet) (before after : List (Move ρ)) :
    f.run? (before ++ after) = (f.run? before).bind fun f => f.run? after := by
  induction before generalizing f with
  | nil => rfl
  | cons m before ih =>
    rw [List.cons_append, run?, run?]
    cases f.move? m with
    | none => rfl
    | some f₁ => exact ih f₁

theorem isDone_iff {f : Fleet} : f.isDone = true ↔ f.waiting = [] ∧ f.flying = [] := by
  rw [isDone, Bool.and_eq_true, List.isEmpty_iff, List.isEmpty_iff]

end Fleet

/-! ## Accounts -/

/-- After a course of moves, the tasks that wait or have taken off are all tasks, and those in
flight or landed are all that have taken off.  There are never more in flight than
the limit allows, and each move leads further. -/
structure Accounts (limit count : Nat) (course : List (Move ρ)) (f : Fleet) : Prop where
  rule : f.limit = limit
  waiting : (takeOffs course ++ f.waiting).Perm (List.range count)
  flying : (landed course ++ f.flying).Perm (takeOffs course)
  room : 0 < limit → f.flying.length ≤ limit
  length : course.length + 2 * f.waiting.length + f.flying.length = 2 * count

namespace Accounts

variable {limit count : Nat} {course : List (Move ρ)} {f f' : Fleet}

theorem start (limit count : Nat) : Accounts limit count ([] : List (Move ρ)) (.ready limit count) where
  rule := rfl
  waiting := .refl _
  flying := .refl _
  room _ := Nat.zero_le _
  length := by simp [Fleet.ready]

/-- One more task takes off. -/
theorem takeOff (h : Accounts limit count course f) {p : Nat} (hp : p ∈ f.waiting)
    (hr : hasRoom f.limit f.flying.length = true) :
    Accounts limit count (course ++ [.takeOff p])
      { f with waiting := f.waiting.erase p, flying := p :: f.flying } where
  rule := h.rule
  waiting := by
    have hcons : (p :: f.waiting.erase p).Perm f.waiting := (List.perm_cons_erase hp).symm
    have hoffs : takeOffs (course ++ [.takeOff p]) = takeOffs course ++ [p] := by
      rw [takeOffs, List.filterMap_append]
      rfl
    rw [hoffs, List.append_assoc, List.singleton_append]
    exact (hcons.append_left _).trans h.waiting
  flying := by
    have hoffs : takeOffs (course ++ [.takeOff p]) = takeOffs course ++ [p] := by
      rw [takeOffs, List.filterMap_append]
      rfl
    have hlanded : landed (course ++ [.takeOff p]) = landed course := by
      rw [landed, landings, List.filterMap_append]
      exact congrArg _ (List.append_nil _)
    rw [hoffs, hlanded]
    exact List.perm_middle.trans ((h.flying.cons p).trans (List.perm_append_singleton p _).symm)
  room hpos := by
    rw [hasRoom, h.rule, Bool.or_eq_true, decide_eq_true_eq, decide_eq_true_eq] at hr
    rw [List.length_cons]
    omega
  length := by
    have herase := List.length_erase_of_mem hp
    have hpos := List.length_pos_of_mem hp
    have hlength := h.length
    simp only [List.length_append, List.length_cons, List.length_nil]
    omega

/-- One more task lands. -/
theorem land (h : Accounts limit count course f) {l : Landing ρ} (hl : l.position ∈ f.flying) :
    Accounts limit count (course ++ [.land l])
      { f with flying := f.flying.erase l.position } where
  rule := h.rule
  waiting := by
    have hoffs : takeOffs (course ++ [.land l]) = takeOffs course := by
      rw [takeOffs, List.filterMap_append]
      exact List.append_nil _
    rw [hoffs]
    exact h.waiting
  flying := by
    have hcons : (l.position :: f.flying.erase l.position).Perm f.flying :=
      (List.perm_cons_erase hl).symm
    have hoffs : takeOffs (course ++ [.land l]) = takeOffs course := by
      rw [takeOffs, List.filterMap_append]
      exact List.append_nil _
    have hlanded : landed (course ++ [.land l]) = landed course ++ [l.position] := by
      rw [landed, landings, List.filterMap_append, List.map_append]
      rfl
    rw [hoffs, hlanded, List.append_assoc, List.singleton_append]
    exact (hcons.append_left _).trans h.flying
  room hpos := by
    have herase := List.length_erase_of_mem hl
    have hroom := h.room hpos
    rw [herase]
    omega
  length := by
    have herase := List.length_erase_of_mem hl
    have hpos := List.length_pos_of_mem hl
    have hlength := h.length
    simp only [List.length_append, List.length_singleton]
    omega

/-- The tasks are accounted for after every move. -/
theorem step (h : Accounts limit count course f) {m : Move ρ} (hm : f.move? m = some f') :
    Accounts limit count (course ++ [m]) f' := by
  cases m with
  | takeOff p =>
    rcases Fleet.move?_takeOff hm with ⟨hp, hr, rfl⟩
    exact h.takeOff hp hr
  | land l =>
    rcases Fleet.move?_land hm with ⟨hl, rfl⟩
    exact h.land hl

/-- Along every course the tasks are accounted for. -/
theorem run (h : Accounts limit count course f) {rest : List (Move ρ)}
    (hr : f.run? rest = some f') : Accounts limit count (course ++ rest) f' := by
  induction rest generalizing course f with
  | nil =>
    cases hr
    rwa [List.append_nil]
  | cons m rest ih =>
    rcases Fleet.run?_cons hr with ⟨f₁, hm, hr₁⟩
    have hrest := ih (h.step hm) hr₁
    rwa [List.append_assoc, List.singleton_append] at hrest

end Accounts

/-! ## Courses that are over -/

/-- A course of moves that lets every task land. -/
def IsCourse (limit count : Nat) (course : List (Move ρ)) : Prop :=
  ∃ f, (Fleet.ready limit count).run? course = some f ∧ f.isDone = true

/-- What lands is what the tasks bring. -/
def Brings (outcome : Nat → Option ρ) (course : List (Move ρ)) : Prop :=
  ∀ l ∈ landings course, l.result = outcome l.position

namespace IsCourse

variable {limit count : Nat} {course : List (Move ρ)}

/-- Every task takes off once. -/
theorem takeOffs_perm (h : IsCourse limit count course) :
    (takeOffs course).Perm (List.range count) := by
  rcases h with ⟨f, hrun, hdone⟩
  have haccounts := (Accounts.start limit count).run hrun
  have hwaiting := haccounts.waiting
  rw [(Fleet.isDone_iff.1 hdone).1, List.append_nil] at hwaiting
  exact hwaiting

/-- Every task lands once. -/
theorem landed_perm (h : IsCourse limit count course) : (landed course).Perm (List.range count) := by
  have hoffs := h.takeOffs_perm
  rcases h with ⟨f, hrun, hdone⟩
  have haccounts := (Accounts.start limit count).run hrun
  have hflying := haccounts.flying
  rw [(Fleet.isDone_iff.1 hdone).2, List.append_nil] at hflying
  exact hflying.trans hoffs

/-- There are never more tasks in flight than the limit allows. -/
theorem room (h : IsCourse limit count course) {before : List (Move ρ)} (hb : before <+: course) :
    ∃ f, (Fleet.ready limit count).run? before = some f ∧ (0 < limit → f.flying.length ≤ limit) := by
  rcases h with ⟨f', hrun, -⟩
  rcases hb with ⟨after, rfl⟩
  rw [Fleet.run?_append] at hrun
  rcases Option.bind_eq_some_iff.1 hrun with ⟨f, hbefore, -⟩
  exact ⟨f, hbefore, ((Accounts.start limit count).run hbefore).room⟩

/-- The results are those of the tasks, by the positions of their items. -/
theorem gather (h : IsCourse limit count course) {outcome : Nat → Option ρ}
    (ho : Brings outcome course) :
    FanOut.gather count (landings course) = (List.range count).map outcome := by
  have hperm := h.landed_perm
  have hnodup : ((landings course).map Landing.position).Nodup :=
    hperm.nodup_iff.2 List.nodup_range
  refine List.map_congr_left fun p hp => ?_
  rcases List.mem_map.1 (hperm.mem_iff.2 hp) with ⟨l, hl, rfl⟩
  rw [resultAt, find?_eq_of_nodup hnodup hl, Option.bind_some]
  exact ho l hl

end IsCourse

/-! ## Courses come to an end -/

/-- While a task waits or is in flight, one can move. -/
theorem Fleet.can_move {f : Fleet} (hd : f.isDone = false) :
    (∃ p ∈ f.flying, ∀ l : Landing ρ, l.position = p → (f.move? (.land l)).isSome = true) ∨
      ∃ p, (f.move? (.takeOff p : Move ρ)).isSome = true := by
  cases hf : f.flying with
  | cons p flying =>
    have hp : p ∈ f.flying := hf ▸ List.mem_cons_self
    refine .inl ⟨p, hf ▸ hp, fun l hl => ?_⟩
    rw [move?_land_of (hl.symm ▸ hp)]
    rfl
  | nil =>
    cases hw : f.waiting with
    | cons p waiting =>
      have hr : hasRoom f.limit f.flying.length = true := by
        rw [hasRoom, hf, Bool.or_eq_true, decide_eq_true_eq, decide_eq_true_eq]
        exact Nat.eq_zero_or_pos f.limit
      refine .inr ⟨p, ?_⟩
      rw [move?_takeOff_of (hw ▸ List.mem_cons_self) hr]
      rfl
    | nil =>
      rw [isDone, hw, hf] at hd
      cases hd

theorem brings_append {outcome : Nat → Option ρ} {before after : List (Move ρ)} :
    Brings outcome (before ++ after) ↔ Brings outcome before ∧ Brings outcome after := by
  rw [Brings, Brings, Brings, landings, List.filterMap_append]
  exact List.forall_mem_append

/-- Every course can be continued until it is over. -/
theorem exists_course {limit count : Nat} {outcome : Nat → Option ρ} {course : List (Move ρ)}
    {f : Fleet} (h : (Fleet.ready limit count).run? course = some f) :
    ∃ rest, IsCourse limit count (course ++ rest) ∧ Brings outcome rest := by
  have haccounts := (Accounts.start limit count).run h
  -- by the number of moves that are left, which each move makes smaller
  induction hn : 2 * f.waiting.length + f.flying.length generalizing course f with
  | zero =>
    have hwaiting : f.waiting = [] := List.eq_nil_of_length_eq_zero (by omega)
    have hflying : f.flying = [] := List.eq_nil_of_length_eq_zero (by omega)
    refine ⟨[], ⟨f, by rwa [List.append_nil], Fleet.isDone_iff.2 ⟨hwaiting, hflying⟩⟩, ?_⟩
    intro l hl
    cases hl
  | succ n ih =>
    have hnext {m : Move ρ} {f₁ : Fleet} (hm : f.move? m = some f₁) (hb : Brings outcome [m]) :
        ∃ rest, IsCourse limit count (course ++ rest) ∧ Brings outcome rest := by
      have hrun : (Fleet.ready limit count).run? (course ++ [m]) = some f₁ := by
        rw [Fleet.run?_append, h, Option.bind_some, Fleet.run?_cons_of hm]
        rfl
      have haccounts₁ := haccounts.step hm
      have hlength := haccounts.length
      have hlength₁ := haccounts₁.length
      rw [List.length_append, List.length_singleton] at hlength₁
      rcases ih hrun haccounts₁ (by omega) with ⟨rest, hcourse, hbrings⟩
      refine ⟨m :: rest, ?_, brings_append.2 ⟨hb, hbrings⟩⟩
      rwa [List.append_assoc, List.singleton_append] at hcourse
    have hd : f.isDone = false := by
      rw [Bool.eq_false_iff, Ne, Fleet.isDone_iff]
      rintro ⟨hwaiting, hflying⟩
      rw [hwaiting, hflying] at hn
      cases hn
    rcases f.can_move (ρ := ρ) hd with ⟨p, -, hp⟩ | ⟨p, hp⟩
    · rcases Option.isSome_iff_exists.1 (hp ⟨p, 0, outcome p⟩ rfl) with ⟨f₁, hm⟩
      refine hnext hm fun l hl => ?_
      obtain rfl : l = ⟨p, 0, outcome p⟩ := List.mem_singleton.1 hl
      rfl
    · rcases Option.isSome_iff_exists.1 hp with ⟨f₁, hm⟩
      exact hnext hm fun l hl => by cases hl

/-- One at a time, the second task may take off and land first, and the first be lost. -/
example : IsCourse 1 2
    [.takeOff 1, .land ⟨1, 3, some "b"⟩, .takeOff 0, .land (⟨0, 5, none⟩ : Landing String)] :=
  ⟨⟨1, [], []⟩, rfl, rfl⟩

/-! ## Runs are courses -/

namespace FanOut

variable {σ α : Type} {limit start position : Nat} {task : α → Work σ (Option ρ)}

/-- One task is done, and then the others. -/
theorem launch_cons (due : List (Landing ρ)) (item : α) (rest : List α) (w : World σ) :
    launch limit start task position due (item :: rest) w =
      let room := makeRoom limit start due
      let done := task item { w with clock := room.1 }
      let next := launch limit start task (position + 1)
        (expect ⟨position, done.2.clock, done.1⟩ room.2.2) rest done.2
      (room.2.1 ++ .takeOff position :: next.1, next.2) :=
  rfl

/-- One more landing is expected. -/
theorem expect_perm (l : Landing ρ) (due : List (Landing ρ)) : (expect l due).Perm (l :: due) := by
  induction due with
  | nil => exact .refl _
  | cons k due ih =>
    rw [expect]
    split
    · exact (ih.cons k).trans (.swap l k due)
    · exact .refl _

/-- Landings that are due can happen. -/
theorem run?_land {f : Fleet} {due : List (Landing ρ)}
    (hf : f.flying.Perm (due.map Landing.position)) :
    f.run? (due.map .land) = some { f with flying := [] } := by
  induction due generalizing f with
  | nil =>
    have hnil : f.flying = [] := hf.eq_nil
    rw [List.map_nil, Fleet.run?, ← hnil]
  | cons l due ih =>
    have hl : l.position ∈ f.flying := hf.mem_iff.2 List.mem_cons_self
    have hrest : (f.flying.erase l.position).Perm (due.map Landing.position) := by
      have herase := hf.erase l.position
      rwa [List.map_cons, List.erase_cons_head] at herase
    rw [List.map_cons, Fleet.run?_cons_of (Fleet.move?_land_of hl)]
    exact ih (f := { f with flying := f.flying.erase l.position }) hrest

/-- What is still to come after room has been made was to come before. -/
theorem mem_of_mem_due {due : List (Landing ρ)} {l : Landing ρ}
    (hl : l ∈ (makeRoom limit start due).2.2) : l ∈ due := by
  unfold makeRoom at hl
  split at hl
  · exact hl
  · cases due with
    | nil => exact hl
    | cons k due => exact List.mem_cons_of_mem k hl

/-- What lands to make room was to come. -/
theorem mem_of_mem_makeRoom {due : List (Landing ρ)} {l : Landing ρ}
    (hl : l ∈ landings (makeRoom limit start due).2.1) : l ∈ due := by
  unfold makeRoom at hl
  split at hl
  · cases hl
  · cases due with
    | nil => cases hl
    | cons k due =>
      obtain rfl : l = k := List.mem_singleton.1 hl
      exact List.mem_cons_self

/-- After room has been made, a task can take off. -/
theorem run?_makeRoom (start : Nat) {f : Fleet} {due : List (Landing ρ)}
    (hf : f.flying.Perm (due.map Landing.position)) (hdue : 0 < limit → due.length ≤ limit) :
    ∃ flying, f.run? (makeRoom limit start due).2.1 = some { f with flying := flying } ∧
      flying.Perm ((makeRoom limit start due).2.2.map Landing.position) ∧
      hasRoom limit flying.length = true := by
  have hlength := hf.length_eq
  rw [List.length_map] at hlength
  cases hroom : hasRoom limit due.length with
  | true =>
    have hmake : makeRoom limit start due = (start, [], due) := if_pos hroom
    rw [hmake]
    exact ⟨f.flying, rfl, hf, by rw [hlength]; exact hroom⟩
  | false =>
    have hfull := hroom
    rw [hasRoom, Bool.or_eq_false_iff, decide_eq_false_iff_not, decide_eq_false_iff_not] at hfull
    have hpos : 0 < limit := Nat.pos_of_ne_zero hfull.1
    cases due with
    | nil => exact absurd hpos hfull.2
    | cons l due =>
      have hmake : makeRoom limit start (l :: due) = (l.time, [.land l], due) :=
        if_neg (Bool.eq_false_iff.1 hroom)
      have hl : l.position ∈ f.flying := hf.mem_iff.2 List.mem_cons_self
      have hrest : (f.flying.erase l.position).Perm (due.map Landing.position) := by
        have herase := hf.erase l.position
        rwa [List.map_cons, List.erase_cons_head] at herase
      have hle := hdue hpos
      have hrestLength := hrest.length_eq
      rw [List.length_map] at hrestLength
      rw [List.length_cons] at hle
      rw [hmake]
      refine ⟨f.flying.erase l.position, ?_, hrest, ?_⟩
      · rw [Fleet.run?_cons_of (Fleet.move?_land_of hl)]
        rfl
      · rw [hasRoom, Bool.or_eq_true, decide_eq_true_eq, decide_eq_true_eq, hrestLength]
        exact .inr hle

/-- What a run of a fan-out does from a position on is possible, and lets every task land. -/
theorem launch_run? {f : Fleet} {due : List (Landing ρ)} {items : List α}
    (hlimit : f.limit = limit) (hwaiting : f.waiting = List.range' position items.length)
    (hf : f.flying.Perm (due.map Landing.position)) (hdue : 0 < limit → due.length ≤ limit)
    (w : World σ) :
    ∃ f', f.run? (launch limit start task position due items w).1 = some f' ∧ f'.isDone = true := by
  induction items generalizing f due position w with
  | nil =>
    refine ⟨{ f with flying := [] }, run?_land hf, ?_⟩
    rw [Fleet.isDone_iff]
    exact ⟨hwaiting, rfl⟩
  | cons item rest ih =>
    rcases run?_makeRoom start hf hdue with ⟨flying, hmade, hflying, hroom⟩
    have hp : position ∈ f.waiting := by
      rw [hwaiting, List.length_cons, List.range'_succ]
      exact List.mem_cons_self
    have hoff : ({ f with flying := flying } : Fleet).move? (.takeOff position : Move ρ) =
        some { f with waiting := f.waiting.erase position, flying := position :: flying } :=
      Fleet.move?_takeOff_of hp (by rw [hlimit]; exact hroom)
    rw [launch_cons]
    simp only
    rw [Fleet.run?_append, hmade, Option.bind_some, Fleet.run?_cons_of hoff]
    refine ih (f := { f with waiting := f.waiting.erase position, flying := position :: flying })
      hlimit ?_ ?_ ?_ _
    · simp only [hwaiting, List.length_cons, List.range'_succ, List.erase_cons_head]
    · refine (hflying.cons position).trans ?_
      exact ((expect_perm (.mk position _ _) _).map Landing.position).symm
    · intro hpos
      have hlength := hflying.length_eq
      rw [List.length_map] at hlength
      rw [hasRoom, Bool.or_eq_true, decide_eq_true_eq, decide_eq_true_eq] at hroom
      rw [(expect_perm _ _).length_eq, List.length_cons]
      omega

/-- What lands in a run was due before, or is the result of the task of its item. -/
theorem launch_brings {due : List (Landing ρ)} {items : List α} {w : World σ} {l : Landing ρ}
    (hl : l ∈ landings (launch limit start task position due items w).1) :
    l ∈ due ∨ ∃ k item w₁, l.position = position + k ∧ items[k]? = some item ∧
      l.result = (task item w₁).1 := by
  induction items generalizing due position w with
  | nil =>
    rcases List.mem_filterMap.1 hl with ⟨m, hm, hland⟩
    rcases List.mem_map.1 hm with ⟨k, hk, rfl⟩
    cases hland
    exact .inl hk
  | cons item rest ih =>
    rw [launch_cons] at hl
    simp only [landings, List.filterMap_append, List.mem_append] at hl
    rcases hl with hl | hl
    · exact .inl (mem_of_mem_makeRoom hl)
    · rcases ih hl with hdue | ⟨k, item', w₁, hp, hi, hr⟩
      · rcases List.mem_cons.1 ((expect_perm _ _).mem_iff.1 hdue) with rfl | hdue
        · exact .inr ⟨0, item, _, rfl, rfl, rfl⟩
        · exact .inl (mem_of_mem_due hdue)
      · refine .inr ⟨k + 1, item', w₁, ?_, hi, hr⟩
        rw [hp]
        omega

/-- What a run of a fan-out does is a course. -/
theorem run_isCourse (limit : Nat) (task : α → Work σ (Option ρ)) (items : List α)
    (w : World σ) : IsCourse limit items.length (run limit task items w).1 := by
  refine launch_run? rfl ?_ (.refl _) (fun _ => Nat.zero_le _) w
  rw [Fleet.ready, List.range_eq_range']

/-- What lands in a run is the result of the task of its item. -/
theorem run_brings {limit : Nat} {task : α → Work σ (Option ρ)} {items : List α} {w : World σ}
    {l : Landing ρ} (hl : l ∈ landings (run limit task items w).1) :
    ∃ item w₁, items[l.position]? = some item ∧ l.result = (task item w₁).1 := by
  rcases launch_brings hl with h | ⟨k, item, w₁, hp, hi, hr⟩
  · cases h
  · refine ⟨item, w₁, ?_, hr⟩
    rw [hp, Nat.zero_add]
    exact hi

end FanOut

end SapMonitor.Landscape
