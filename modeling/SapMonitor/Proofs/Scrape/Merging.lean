import Mathlib.Data.List.Forall2
import SapMonitor.Scrape.Gather

/-!
# Merging by name

A scrape merges families of several origins.  The names of each origin begin with a heading of
its own, and no heading begins another one, so that no two origins have a name in common.  Then
the merged families are in strictly ascending order and do not depend on the order of the
origins, and an origin that is left out takes away its own families and nothing else.

Main results:

- `distinct_of_headed`: headings keep the names of results apart.
- `ascending_merge`: merged families are in strictly ascending order.
- `merge_perm`: the order of the results does not matter.
- `merge_failure`: a result that turns into a failure takes its own families away.
-/

namespace SapMonitor.Scrape

open Series (Family)

/-! ## Headings -/

/-- No text begins with both. -/
def Incompatible (a b : String) : Prop :=
  ¬ a.toList <+: b.toList ∧ ¬ b.toList <+: a.toList

instance : DecidableRel Incompatible :=
  fun a b => inferInstanceAs (Decidable (¬ a.toList <+: b.toList ∧ ¬ b.toList <+: a.toList))

/-- The names of families differ, and all begin with a heading. -/
structure Headed (heading : String) (fs : List Family) : Prop where
  begins : ∀ f ∈ fs, heading.toList <+: f.name.toList
  nodup : (fs.map Family.name).Nodup

namespace Headed

variable {heading a b : String} {fs gs : List Family}

theorem nil (heading : String) : Headed heading [] :=
  ⟨fun _ hf => (List.not_mem_nil hf).elim, List.nodup_nil⟩

theorem append (hf : Headed heading fs) (hg : Headed heading gs)
    (h : ∀ f ∈ fs, ∀ g ∈ gs, f.name ≠ g.name) : Headed heading (fs ++ gs) where
  begins f hmem := (List.mem_append.1 hmem).elim (hf.begins f) (hg.begins f)
  nodup := by
    rw [List.map_append]
    refine List.nodup_append.2 ⟨hf.nodup, hg.nodup, ?_⟩
    intro m hm n hn
    obtain ⟨f, hfmem, rfl⟩ := List.mem_map.1 hm
    obtain ⟨g, hgmem, rfl⟩ := List.mem_map.1 hn
    exact h f hfmem g hgmem

/-- Families under incompatible headings have no name in common. -/
theorem ne_of_incompatible (hab : Incompatible a b) (hf : Headed a fs) (hg : Headed b gs)
    {f g : Family} (hfmem : f ∈ fs) (hgmem : g ∈ gs) : f.name ≠ g.name := by
  intro hname
  have ha : a.toList <+: g.name.toList := hname ▸ hf.begins f hfmem
  rcases List.prefix_or_prefix_of_prefix ha (hg.begins g hgmem) with h | h
  · exact hab.1 h
  · exact hab.2 h

/-- A name under a heading is not empty. -/
theorem name_ne (hne : heading ≠ "") (h : Headed heading fs) {f : Family} (hf : f ∈ fs) :
    f.name ≠ "" := by
  intro hname
  have hbegins := h.begins f hf
  rw [hname, String.toList_empty, List.prefix_nil] at hbegins
  exact hne (String.toList_eq_nil_iff.1 hbegins)

end Headed

/-! ## Results with different names -/

/-- No name occurs twice among the families of results. -/
def Distinct (results : List Result) : Prop :=
  ((results.flatMap families).map Family.name).Nodup

/-- Every family of headed results stands under one of the headings. -/
theorem exists_headed {headings : List String} {results : List Result}
    (h : List.Forall₂ (fun heading r => Headed heading (families r)) headings results)
    {f : Family} (hf : f ∈ results.flatMap families) :
    ∃ heading ∈ headings, ∃ fs, Headed heading fs ∧ f ∈ fs := by
  induction h with
  | nil => cases hf
  | @cons heading r headings results hr hrest ih =>
    rw [List.flatMap_cons, List.mem_append] at hf
    rcases hf with hf | hf
    · exact ⟨heading, List.mem_cons_self, families r, hr, hf⟩
    · obtain ⟨other, hother, hexists⟩ := ih hf
      exact ⟨other, List.mem_cons_of_mem _ hother, hexists⟩

/-- Headings that are incompatible with each other keep the names of results apart. -/
theorem distinct_of_headed {headings : List String} {results : List Result}
    (hheadings : headings.Pairwise Incompatible)
    (h : List.Forall₂ (fun heading r => Headed heading (families r)) headings results) :
    Distinct results := by
  induction h with
  | nil => exact List.nodup_nil
  | @cons heading r headings results hr hrest ih =>
    obtain ⟨hfirst, hothers⟩ := List.pairwise_cons.1 hheadings
    rw [Distinct, List.flatMap_cons, List.map_append]
    refine List.nodup_append.2 ⟨hr.nodup, ih hothers, ?_⟩
    intro m hm n hn
    obtain ⟨f, hf, rfl⟩ := List.mem_map.1 hm
    obtain ⟨g, hg, rfl⟩ := List.mem_map.1 hn
    obtain ⟨other, hother, gs, hheaded, hgs⟩ := exists_headed hrest hg
    exact Headed.ne_of_incompatible (hfirst other hother) hr hheaded hf hgs

theorem Distinct.perm {results results' : List Result} (h : Distinct results)
    (hp : results'.Perm results) : Distinct results' :=
  ((hp.flatMap_right families).map Family.name).nodup_iff.2 h

/-- Without the families of one result those of the others are left. -/
theorem Distinct.others {before after : List Result} {r failure : Result}
    (h : Distinct (before ++ r :: after)) (hfailure : families failure = []) :
    ((before ++ r :: after).flatMap families).filter
        (fun f => f.name ∉ (families r).map Family.name) =
      (before ++ failure :: after).flatMap families := by
  rw [Distinct, List.flatMap_append, List.flatMap_cons, List.map_append, List.map_append,
    List.nodup_append, List.nodup_append] at h
  obtain ⟨-, ⟨-, -, hafter⟩, hbefore⟩ := h
  have hown : (families r).filter (fun f => f.name ∉ (families r).map Family.name) = [] :=
    List.filter_eq_nil_iff.2 fun f hf => by simp [List.mem_map_of_mem hf]
  have hfirst : (before.flatMap families).filter
      (fun f => f.name ∉ (families r).map Family.name) = before.flatMap families :=
    List.filter_eq_self.2 fun f hf => decide_eq_true fun hmem =>
      hbefore _ (List.mem_map_of_mem hf) _ (List.mem_append_left _ hmem) rfl
  have hlast : (after.flatMap families).filter
      (fun f => f.name ∉ (families r).map Family.name) = after.flatMap families :=
    List.filter_eq_self.2 fun f hf => decide_eq_true fun hmem =>
      hafter _ hmem _ (List.mem_map_of_mem hf) rfl
  rw [List.flatMap_append, List.flatMap_append, List.flatMap_cons, List.flatMap_cons, hfailure,
    List.filter_append, List.filter_append, hown, hfirst, hlast]

/-- Results stay distinct if one of them turns into a failure. -/
theorem Distinct.failure {before after : List Result} {r failure : Result}
    (h : Distinct (before ++ r :: after)) (hfailure : families failure = []) :
    Distinct (before ++ failure :: after) := by
  rw [Distinct, ← h.others hfailure]
  exact List.Nodup.sublist (List.Sublist.map _ List.filter_sublist) h

/-! ## Merged families -/

theorem merge_perm_offered (results : List Result) :
    (merge results).Perm ((results.flatMap families).filter fun f => !f.points.isEmpty) :=
  List.mergeSort_perm _ _

/-- The merged families are those of the results, without those that have no samples. -/
theorem mem_merge {results : List Result} {f : Family} :
    f ∈ merge results ↔ (∃ r ∈ results, f ∈ families r) ∧ f.points ≠ [] := by
  rw [(merge_perm_offered results).mem_iff, List.mem_filter, List.mem_flatMap]
  simp

/-- Merged families are in strictly ascending order, if no name occurs twice. -/
theorem ascending_merge {results : List Result} (h : Distinct results) :
    (merge results).Pairwise fun f g => f.name < g.name := by
  have hnodup : ((merge results).map Family.name).Nodup :=
    (((merge_perm_offered results).map Family.name).nodup_iff).2
      (h.sublist (List.Sublist.map _ List.filter_sublist))
  refine ((merge_sorted results).and (List.pairwise_map.1 hnodup)).imp ?_
  rintro f g ⟨hle, hne⟩
  have hle : f.name ≤ g.name := of_decide_eq_true hle
  by_contra hlt
  exact hne (String.le_antisymm hle (String.not_lt.1 hlt))

/-- Families in strictly ascending order are determined by being the same ones. -/
theorem eq_of_ascending {fs gs : List Family} (hf : fs.Pairwise fun f g => f.name < g.name)
    (hg : gs.Pairwise fun f g => f.name < g.name) (h : fs.Perm gs) : fs = gs :=
  h.eq_of_pairwise
    (fun _ _ _ _ hab hba => (String.lt_irrefl _ (String.lt_trans hab hba)).elim) hf hg

/-- It does not matter in which order results are merged. -/
theorem merge_perm {results results' : List Result} (h : Distinct results)
    (hp : results'.Perm results) : merge results' = merge results := by
  refine eq_of_ascending (ascending_merge (h.perm hp)) (ascending_merge h) ?_
  refine (merge_perm_offered results').trans (List.Perm.trans ?_ (merge_perm_offered results).symm)
  exact (hp.flatMap_right families).filter _

/-- A result that turns into a failure takes its own families away, and nothing else. -/
theorem merge_failure (before after : List Result) {r failure : Result}
    (h : Distinct (before ++ r :: after)) (hfailure : families failure = []) :
    merge (before ++ failure :: after) =
      (merge (before ++ r :: after)).filter fun f => f.name ∉ (families r).map Family.name := by
  refine eq_of_ascending (ascending_merge (h.failure hfailure)) ((ascending_merge h).filter _) ?_
  refine (merge_perm_offered _).trans
    (List.Perm.trans ?_ ((merge_perm_offered (before ++ r :: after)).filter _).symm)
  -- the empty families go after those of the result, as they do without it
  rw [List.filter_filter]
  simp only [Bool.and_comm]
  rw [← List.filter_filter, h.others hfailure]

end SapMonitor.Scrape
