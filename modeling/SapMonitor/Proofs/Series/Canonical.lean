import Mathlib.Data.List.Sort
import SapMonitor.Proofs.Series.Fitting

/-!
# Canonical families

A buffer rejects a sample on one of four grounds, and none of them depends on what was sampled
before.  A rejected sample may still bring a vector into being.  But a vector without cells shows
no family, so a buffer has the families of the samples that it admitted, whatever it rejected in
between.  The families stand in one order: gauges before counters, and the families of a kind in
ascending order of their metrics.

Main results:

- `Catalog.accepts_eq_true_iff`: a sample is accepted unless it is refused on one of four grounds.
- `Buffer.Sound.admitted_eq`: a buffer admits the samples that are not refused.
- `Buffer.Sound.families_congr`: buffers with the same cells have the same families.
- `Buffer.families_canonical`: rejected samples leave no trace, and the families are in order.
-/

namespace SapMonitor.Series

/-! ## Grounds of rejection -/

namespace Catalog

/-- The grounds on which a sample is rejected: its metric is not described, no series can be
created for the descriptor, the number of label values is another than that of the labels, or it
is a counter below zero. -/
inductive Refuses (c : Catalog) (s : Sample) : Prop where
  | undescribed (h : c.find? s.metric = none)
  | faulty (d : Descriptor) (h : c.find? s.metric = some d)
      (hfault : ¬d.Creatable (c.seriesName s.metric))
  | labelCount (d : Descriptor) (h : c.find? s.metric = some d)
      (hcount : d.labels.length ≠ s.labels.length)
  | negative (hkind : s.kind = .counter) (hvalue : s.value < 0)

/-- A sample that is not refused fits the catalog, and is no counter below zero. -/
theorem not_refuses_iff {c : Catalog} {s : Sample} :
    ¬c.Refuses s ↔ c.Fits s ∧ s.negative? = none := by
  constructor
  · intro h
    have hnegative : ¬(s.kind = .counter ∧ s.value < 0) := by
      rintro ⟨hkind, hvalue⟩
      exact h (.negative hkind hvalue)
    refine ⟨?_, if_neg hnegative⟩
    cases hfind : c.find? s.metric with
    | none => exact absurd (.undescribed hfind) h
    | some d =>
      refine ⟨d, hfind, ?_, ?_⟩
      · by_contra hfault
        exact h (.faulty d hfind hfault)
      · by_contra hcount
        exact h (.labelCount d hfind (Ne.symm hcount))
  · rintro ⟨⟨d, hfind, hcreatable, hcount⟩, hnegative⟩ hrefused
    cases hrefused with
    | undescribed h => rw [hfind] at h; cases h
    | faulty e h hfault =>
      rw [hfind, Option.some.injEq] at h
      exact hfault (h ▸ hcreatable)
    | labelCount e h hne =>
      rw [hfind, Option.some.injEq] at h
      exact hne (h ▸ hcount.symm)
    | negative hkind hvalue =>
      rw [Sample.negative?, if_pos ⟨hkind, hvalue⟩] at hnegative
      cases hnegative

/-- A sample that is accepted fits the catalog. -/
theorem fits_of_accepts {c : Catalog} {s : Sample} (h : c.accepts s = true) : c.Fits s := by
  rw [accepts, Bool.and_eq_true] at h
  cases hd : c.described? s.metric with
  | none =>
    rw [hd] at h
    cases h.2
  | some d =>
    rw [hd, Option.any_some, beq_iff_eq] at h
    obtain ⟨hfind, hfault⟩ := described?_eq_some_iff.1 hd
    exact ⟨d, hfind, Descriptor.fault?_eq_none_iff.1 hfault, h.2.symm⟩

/-- A sample is accepted unless it is refused. -/
theorem accepts_eq_true_iff {c : Catalog} {s : Sample} : c.accepts s = true ↔ ¬c.Refuses s := by
  rw [not_refuses_iff]
  constructor
  · intro h
    have hfits := fits_of_accepts h
    exact ⟨hfits, (accepts_iff_of_fits hfits).1 h⟩
  · rintro ⟨hfits, hnegative⟩
    exact (accepts_iff_of_fits hfits).2 hnegative

instance (c : Catalog) (s : Sample) : Decidable (c.Refuses s) :=
  decidable_of_iff (c.accepts s = false) (by
    rw [← Bool.not_eq_true, accepts_eq_true_iff, not_not])

end Catalog

namespace Buffer

/-! ## Samples that are admitted -/

/-- The samples that a buffer does not reject when it is handed them one after the other. -/
def admitted (b : Buffer) : List Sample → List Sample
  | [] => []
  | s :: samples =>
    match b.record s with
    | (b, none) => s :: b.admitted samples
    | (b, some _) => b.admitted samples

/-- A buffer rejects a sample exactly if it is refused. -/
theorem Sound.isSome_rejection_iff {b : Buffer} (h : b.Sound) (s : Sample) :
    (b.record s).2.isSome = true ↔ b.catalog.Refuses s := by
  have haccepts := Catalog.accepts_eq_true_iff (c := b.catalog) (s := s)
  rw [← h.rejects s] at haccepts
  rw [← not_iff_not, ← haccepts]
  cases (b.record s).2 <;> simp

/-- A buffer admits the samples that are not refused, whatever came before them. -/
theorem Sound.admitted_eq {b : Buffer} (h : b.Sound) (samples : List Sample) :
    b.admitted samples = samples.filter fun s => ¬b.catalog.Refuses s := by
  induction samples generalizing b with
  | nil => rfl
  | cons s samples ih =>
    obtain ⟨hsound, hcatalog⟩ := h.record s
    have hrest := ih hsound
    rw [hcatalog] at hrest
    have hrejected := h.isSome_rejection_iff s
    rw [admitted, List.filter_cons]
    cases hs : b.record s with
    | mk b' r =>
      rw [hs] at hrest hrejected
      cases r with
      | none => simpa [← hrejected] using hrest
      | some r => simpa [← hrejected] using hrest

/-- Without the samples that are refused, a buffer is filled with the same cells. -/
theorem cells_filled_filter (c : Catalog) (samples : List Sample) (k : Kind) (metric : String) :
    (filled c (samples.filter fun s => ¬c.Refuses s)).cells k metric =
      (filled c samples).cells k metric := by
  rw [cells_filled, cells_filled, List.filter_filter]
  congr 1
  apply List.filter_congr
  intro s _
  by_cases haccepts : c.accepts s = true
  · simp [takes, haccepts, Catalog.accepts_eq_true_iff.1 haccepts]
  · simp [takes, haccepts]

/-! ## Vectors that show a family -/

/-- The vectors that have cells. -/
def shown (vs : List Vector) : List Vector :=
  vs.filter fun v => !v.cells.isEmpty

/-- A buffer shows the vectors that have cells, gauges before counters. -/
theorem families_eq (b : Buffer) : b.families =
    (shown (b.vectors .gauge)).map (family b.catalog .gauge) ++
      (shown (b.vectors .counter)).map (family b.catalog .counter) := by
  have hshown (k : Kind) (vs : List Vector) :
      (vs.map (family b.catalog k)).filter (fun f => !f.points.isEmpty) =
        (shown vs).map (family b.catalog k) := by
    rw [List.filter_map]
    congr 1
    apply List.filter_congr
    intro v _
    rw [Function.comp_apply, isEmpty_points_family]
  rw [families, List.filter_append, hshown, hshown]
  rfl

/-- A vector comes before those of greater metrics. -/
def Precedes (v w : Vector) : Prop :=
  v.metric < w.metric

instance : Std.Irrefl Precedes :=
  ⟨fun v => String.lt_irrefl v.metric⟩

instance : Std.Antisymm Precedes :=
  ⟨fun v _ h h' => absurd (String.lt_trans h h') (String.lt_irrefl v.metric)⟩

/-- The vectors that a sound buffer shows are known from its catalog and its cells. -/
theorem Sound.mem_shown_iff {b : Buffer} (h : b.Sound) {k : Kind} {v : Vector} :
    v ∈ shown (b.vectors k) ↔ b.catalog.described? v.metric = some v.descriptor ∧
      b.cells k v.metric = v.cells ∧ v.cells ≠ [] := by
  have hcells (w : Vector) : (!w.cells.isEmpty) = true ↔ w.cells ≠ [] := by simp
  rw [shown, List.mem_filter, hcells]
  constructor
  · rintro ⟨hv, hne⟩
    exact ⟨(h k).described v hv, h.cells_of_mem hv, hne⟩
  · rintro ⟨hdescribed, hsame, hne⟩
    obtain ⟨w, hw, hmetric⟩ := exists_vector_of_cells (hsame ▸ hne)
    have hdescriptor := (h k).described w hw
    rw [hmetric, hdescribed, Option.some.injEq] at hdescriptor
    have hwcells := h.cells_of_mem hw
    rw [hmetric, hsame] at hwcells
    have hvw : v = w := by
      cases v
      cases w
      simp_all
    exact ⟨hvw ▸ hw, hne⟩

/-- Buffers with the same catalog and the same cells have the same families. -/
theorem Sound.families_congr {b b' : Buffer} (h : b.Sound) (h' : b'.Sound)
    (hcatalog : b.catalog = b'.catalog)
    (hcells : ∀ k metric, b.cells k metric = b'.cells k metric) : b.families = b'.families := by
  have hshown (k : Kind) : shown (b.vectors k) = shown (b'.vectors k) := by
    apply List.Pairwise.eq_of_mem_iff (r := Precedes)
    · exact (h k).ascending.filter _
    · exact (h' k).ascending.filter _
    · intro v
      rw [h.mem_shown_iff, h'.mem_shown_iff, hcatalog, hcells]
  rw [families_eq, families_eq, hshown, hshown, hcatalog]

/-! ## Families in order -/

/-- The metrics of the samples of a kind, each once, in ascending order. -/
structure Lists (samples : List Sample) (k : Kind) (metrics : List String) : Prop where
  ascending : metrics.Pairwise (· < ·)
  sampled : ∀ metric, metric ∈ metrics ↔ ∃ s ∈ samples, s.kind = k ∧ s.metric = metric

/-- A family presents a metric: it has its name, and points. -/
structure Presents (c : Catalog) (k : Kind) (metric : String) (f : Family) : Prop where
  kind : f.kind = k
  name : f.name = c.seriesName metric
  fullName : c.subsystem ≠ "" → f.name = c.fullName metric
  points : f.points ≠ []

/-- Families present the samples of a kind: each of its metrics by one family, in ascending
order. -/
def InOrder (c : Catalog) (samples : List Sample) (k : Kind) (families : List Family) : Prop :=
  ∃ metrics, Lists samples k metrics ∧ metrics.Forall₂ (Presents c k) families

/-- The family of a vector with cells presents its metric. -/
theorem Sound.presents {b : Buffer} (h : b.Sound) {k : Kind} {v : Vector}
    (hv : v ∈ shown (b.vectors k)) :
    Presents b.catalog k v.metric (family b.catalog k v) where
  kind := rfl
  name := rfl
  fullName := by
    intro hsubsystem
    have hmetric := Catalog.ne_empty_of_described (h.mem_shown_iff.1 hv).1
    exact Catalog.seriesName_of_parts (by simpa using hmetric) (by simpa using hsubsystem)
  points := by
    intro hpoints
    have hempty := isEmpty_points_family b.catalog k v
    rw [hpoints, List.isEmpty_nil, eq_comm, List.isEmpty_iff] at hempty
    exact (h.mem_shown_iff.1 hv).2.2 hempty

/-- The vectors with cells have the metrics that have cells. -/
theorem Sound.mem_metrics_iff {b : Buffer} (h : b.Sound) {k : Kind} {metric : String} :
    metric ∈ (shown (b.vectors k)).map Vector.metric ↔ b.cells k metric ≠ [] := by
  rw [List.mem_map]
  constructor
  · rintro ⟨v, hv, rfl⟩
    obtain ⟨-, hcells, hne⟩ := h.mem_shown_iff.1 hv
    exact hcells ▸ hne
  · intro hne
    obtain ⟨v, hv, rfl⟩ := exists_vector_of_cells hne
    have hcells := h.cells_of_mem hv
    exact ⟨v, h.mem_shown_iff.2 ⟨(h k).described v hv, hcells, hcells ▸ hne⟩, rfl⟩

/-- Samples leave cells for their metric. -/
theorem series_ne_nil_iff {samples : List Sample} : series samples ≠ [] ↔ samples ≠ [] := by
  constructor
  · rintro hne rfl
    exact hne rfl
  · intro hne hseries
    obtain ⟨s, hs⟩ := List.exists_mem_of_ne_nil samples hne
    have hkey := mem_keys_series.2 ⟨s, hs, rfl⟩
    rw [hseries] at hkey
    cases hkey

/-- The vectors of a kind that a filled buffer shows have the metrics of its accepted samples. -/
theorem lists_shown (c : Catalog) (samples : List Sample) (k : Kind) :
    Lists (samples.filter fun s => ¬c.Refuses s) k
      ((shown ((filled c samples).vectors k)).map Vector.metric) where
  ascending := by
    rw [List.pairwise_map]
    exact ((sound_filled c samples) k).ascending.filter _
  sampled := by
    intro metric
    rw [(sound_filled c samples).mem_metrics_iff, cells_filled, series_ne_nil_iff, ne_eq,
      List.filter_eq_nil_iff]
    simp [takes, Catalog.accepts_eq_true_iff, and_assoc]

theorem inOrder_shown (c : Catalog) (samples : List Sample) (k : Kind) :
    InOrder c (samples.filter fun s => ¬c.Refuses s) k
      ((shown ((filled c samples).vectors k)).map (family c k)) := by
  refine ⟨_, lists_shown c samples k, ?_⟩
  rw [List.forall₂_map_left_iff, List.forall₂_map_right_iff, List.forall₂_same]
  intro v hv
  have hpresents := (sound_filled c samples).presents hv
  rw [catalog_filled] at hpresents
  exact hpresents

/-- Rejected samples leave no trace: without them a buffer has the same families.  The families
are in order, gauges before counters, with one for each metric of the samples that are admitted. -/
theorem families_canonical (c : Catalog) (samples : List Sample) :
    (empty c).admitted samples = samples.filter (fun s => ¬c.Refuses s) ∧
      (filled c ((empty c).admitted samples)).families = (filled c samples).families ∧
      ∃ gauges counters, (filled c samples).families = gauges ++ counters ∧
        InOrder c ((empty c).admitted samples) .gauge gauges ∧
        InOrder c ((empty c).admitted samples) .counter counters := by
  have hadmitted : (empty c).admitted samples = samples.filter fun s => ¬c.Refuses s :=
    (sound_empty c).admitted_eq samples
  refine ⟨hadmitted, ?_, ?_⟩
  · rw [hadmitted]
    apply (sound_filled c _).families_congr (sound_filled c samples)
    · rw [catalog_filled, catalog_filled]
    · exact cells_filled_filter c samples
  · rw [hadmitted]
    refine ⟨_, _, ?_, inOrder_shown c samples .gauge, inOrder_shown c samples .counter⟩
    rw [families_eq, catalog_filled]

end Buffer

end SapMonitor.Series
