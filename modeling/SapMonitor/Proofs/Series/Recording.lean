import SapMonitor.Proofs.Series.Cells

/-!
# What a buffer has recorded

A sample is accepted if its metric is described without fault, it carries as many label
values as the descriptor has labels, and it is no counter below zero.  An accepted sample
goes to the cells of its kind and metric and changes nothing else; any other sample changes
no cell.  So the cells of a buffer are the series of the accepted samples, metric by metric,
and its families show these cells.

Main results:

- `Buffer.Sound.recorded`: what one sample does to the cells.
- `Buffer.cells_recordAll`: the cells after several samples.
- `Buffer.mem_families_iff`: the families of a buffer are its cells that are not empty.
-/

namespace SapMonitor.Series

/-! ## Accepted samples -/

namespace Catalog

/-- The descriptor of a metric, if it has no fault. -/
def described? (c : Catalog) (metric : String) : Option Descriptor :=
  (c.find? metric).filter fun d => (d.fault? (c.seriesName metric)).isNone

/-- Whether a sample is accepted. -/
def accepts (c : Catalog) (s : Sample) : Bool :=
  !(s.kind = .counter && s.value < 0) &&
    (c.described? s.metric).any fun d => d.labels.length == s.labels.length

theorem described?_eq_some_iff {c : Catalog} {metric : String} {d : Descriptor} :
    c.described? metric = some d ↔
      c.find? metric = some d ∧ d.fault? (c.seriesName metric) = none := by
  rw [described?, Option.filter_eq_some_iff, Option.isNone_iff_eq_none]

/-- The name of a metric that is described without fault is a metric name. -/
theorem isMetricName_of_described {c : Catalog} {metric : String} {d : Descriptor}
    (h : c.described? metric = some d) : isMetricName (c.seriesName metric) = true := by
  have hfault := (described?_eq_some_iff.1 h).2
  unfold Descriptor.fault? at hfault
  split at hfault
  · cases hfault
  · split at hfault
    · cases hfault
    · rename_i hname
      simpa using hname

/-- A metric that is described without fault has a name. -/
theorem ne_empty_of_described {c : Catalog} {metric : String} {d : Descriptor}
    (h : c.described? metric = some d) : metric ≠ "" := by
  rintro rfl
  exact Bool.noConfusion (isMetricName_of_described h)

/-- No two metrics with names have the same name of series. -/
theorem seriesName_injective {c : Catalog} {a b : String} (ha : a ≠ "") (hb : b ≠ "")
    (h : c.seriesName a = c.seriesName b) : a = b := by
  have hae : a.isEmpty = false := by simpa using ha
  have hbe : b.isEmpty = false := by simpa using hb
  simp only [seriesName, hae, hbe, fullName, Bool.false_eq_true, if_false] at h
  split at h <;> exact (String.append_right_inj _).1 h

end Catalog

/-! ## Vectors by their metrics -/

/-- Vectors stand in ascending order of their metrics, and no metric has two. -/
def Ascending (vs : List Vector) : Prop :=
  vs.Pairwise fun v w => v.metric < w.metric

/-- The vector of a metric. -/
def vectorAt? (metric : String) (vs : List Vector) : Option Vector :=
  vs.find? fun v => v.metric == metric

/-- The cells of a metric. -/
def cellsAt (metric : String) (vs : List Vector) : List Cell :=
  (vectorAt? metric vs).elim [] Vector.cells

theorem vectorAt?_cons (metric : String) (v : Vector) (vs : List Vector) :
    vectorAt? metric (v :: vs) = if v.metric = metric then some v else vectorAt? metric vs := by
  by_cases h : v.metric = metric <;> simp [vectorAt?, h]

theorem metric_of_vectorAt? {metric : String} {vs : List Vector} {v : Vector}
    (h : vectorAt? metric vs = some v) : v.metric = metric := by
  simpa using List.find?_some h

/-- A vector is found under its metric. -/
theorem vectorAt?_of_mem {vs : List Vector} (h : Ascending vs) {v : Vector} (hv : v ∈ vs) :
    vectorAt? v.metric vs = some v := by
  induction vs with
  | nil => cases hv
  | cons w vs ih =>
    obtain ⟨hw, hvs⟩ := List.pairwise_cons.1 h
    rcases List.mem_cons.1 hv with rfl | hv
    · rw [vectorAt?_cons, if_pos rfl]
    · have hne : w.metric ≠ v.metric := fun he => String.lt_irrefl _ (he ▸ hw v hv)
      rw [vectorAt?_cons, if_neg hne]
      exact ih hvs hv

theorem mem_insertVector {v w : Vector} {vs : List Vector} :
    w ∈ insertVector v vs ↔ w = v ∨ w ∈ vs := by
  induction vs with
  | nil => simp [insertVector]
  | cons u vs ih =>
    unfold insertVector
    split
    · exact List.mem_cons
    · rw [List.mem_cons, ih, List.mem_cons]
      exact or_left_comm

/-- A vector of a new metric is inserted in its place. -/
theorem ascending_insertVector {v : Vector} {vs : List Vector} (h : Ascending vs)
    (hnew : vectorAt? v.metric vs = none) : Ascending (insertVector v vs) := by
  induction vs with
  | nil => exact List.pairwise_singleton _ _
  | cons u vs ih =>
    obtain ⟨hu, hvs⟩ := List.pairwise_cons.1 h
    rw [vectorAt?_cons] at hnew
    split at hnew
    · cases hnew
    · rename_i hne
      unfold insertVector
      split
      · rename_i hlt
        refine List.pairwise_cons.2 ⟨?_, h⟩
        intro w hw
        rcases List.mem_cons.1 hw with rfl | hw
        · exact hlt
        · exact String.lt_trans hlt (hu w hw)
      · rename_i hge
        have hlt : u.metric < v.metric := by
          by_contra hnot
          exact hne (String.le_antisymm (String.not_lt.1 hge) (String.not_lt.1 hnot))
        refine List.pairwise_cons.2 ⟨?_, ih hvs hnew⟩
        intro w hw
        rcases mem_insertVector.1 hw with rfl | hw
        · exact hlt
        · exact hu w hw

/-- A vector of a new metric is found, and the others still are. -/
theorem vectorAt?_insertVector {v : Vector} {vs : List Vector}
    (hnew : vectorAt? v.metric vs = none) (metric : String) :
    vectorAt? metric (insertVector v vs) =
      if v.metric = metric then some v else vectorAt? metric vs := by
  induction vs with
  | nil => exact vectorAt?_cons metric v []
  | cons u vs ih =>
    rw [vectorAt?_cons] at hnew
    split at hnew
    · cases hnew
    · rename_i hne
      unfold insertVector
      split
      · exact vectorAt?_cons metric v _
      · rw [vectorAt?_cons, vectorAt?_cons, ih hnew]
        by_cases hu : u.metric = metric
        · have hv : v.metric ≠ metric := fun he => hne (hu.trans he.symm)
          rw [if_pos hu, if_neg hv, if_pos hu]
        · rw [if_neg hu, if_neg hu]

/-- The vector with other cells. -/
def Vector.mapCells (f : List Cell → List Cell) (v : Vector) : Vector :=
  { v with cells := f v.cells }

/-- Changing cells leaves the metrics. -/
theorem map_metric_modifyVector (f : List Cell → List Cell) (metric : String)
    (vs : List Vector) :
    (modifyVector metric (Vector.mapCells f) vs).map Vector.metric = vs.map Vector.metric := by
  induction vs with
  | nil => rfl
  | cons v vs ih =>
    unfold modifyVector
    split
    · rfl
    · rw [List.map_cons, List.map_cons, ih]

/-- Changing cells keeps the order. -/
theorem ascending_modifyVector {vs : List Vector} (h : Ascending vs) (f : List Cell → List Cell)
    (metric : String) : Ascending (modifyVector metric (Vector.mapCells f) vs) := by
  have hmap : (vs.map Vector.metric).Pairwise (· < ·) := List.pairwise_map.2 h
  rw [← map_metric_modifyVector f metric] at hmap
  exact List.pairwise_map.1 hmap

/-- The cells of the metric are changed, and no others. -/
theorem vectorAt?_modifyVector (f : List Cell → List Cell) (metric other : String)
    (vs : List Vector) :
    vectorAt? other (modifyVector metric (Vector.mapCells f) vs) =
      if metric = other then (vectorAt? other vs).map (Vector.mapCells f)
      else vectorAt? other vs := by
  induction vs with
  | nil => simp [modifyVector, vectorAt?]
  | cons v vs ih =>
    unfold modifyVector
    split
    · rename_i hv
      have hsame : (v.mapCells f).metric = v.metric := rfl
      rw [vectorAt?_cons, vectorAt?_cons, hsame]
      by_cases ho : metric = other
      · rw [if_pos (hv.trans ho), if_pos ho, if_pos (hv.trans ho), Option.map_some]
      · have hne : v.metric ≠ other := fun he => ho (hv.symm.trans he)
        rw [if_neg hne, if_neg ho, if_neg hne]
    · rename_i hv
      rw [vectorAt?_cons, vectorAt?_cons, ih]
      by_cases ho : v.metric = other
      · have hne : metric ≠ other := fun he => hv (ho.trans he.symm)
        rw [if_pos ho, if_neg hne, if_pos ho]
      · rw [if_neg ho, if_neg ho]

theorem mem_modifyVector {f : Vector → Vector} {metric : String} {vs : List Vector} {v : Vector}
    (h : v ∈ modifyVector metric f vs) : v ∈ vs ∨ ∃ w ∈ vs, v = f w := by
  induction vs with
  | nil => cases h
  | cons w vs ih =>
    unfold modifyVector at h
    split at h
    · rcases List.mem_cons.1 h with rfl | h
      · exact .inr ⟨w, List.mem_cons_self, rfl⟩
      · exact .inl (List.mem_cons_of_mem _ h)
    · rcases List.mem_cons.1 h with rfl | h
      · exact .inl List.mem_cons_self
      · rcases ih h with h | ⟨u, hu, rfl⟩
        · exact .inl (List.mem_cons_of_mem _ h)
        · exact .inr ⟨u, List.mem_cons_of_mem _ hu, rfl⟩

/-! ## Sound buffers -/

/-- Vectors in their order, each with the descriptor of its metric. -/
structure Arranged (c : Catalog) (vs : List Vector) : Prop where
  ascending : Ascending vs
  described : ∀ v ∈ vs, c.described? v.metric = some v.descriptor

namespace Arranged

variable {c : Catalog} {vs : List Vector}

/-- An empty vector can be added for a metric that is described. -/
theorem insert (h : Arranged c vs) {metric : String} {d : Descriptor}
    (hd : c.described? metric = some d) (hnew : vectorAt? metric vs = none) :
    Arranged c (insertVector ⟨metric, d, []⟩ vs) where
  ascending := ascending_insertVector h.ascending hnew
  described v hv := by
    rcases mem_insertVector.1 hv with rfl | hv
    · exact hd
    · exact h.described v hv

/-- The cells of a vector can be replaced. -/
theorem modify (h : Arranged c vs) (metric : String) (f : List Cell → List Cell) :
    Arranged c (modifyVector metric (Vector.mapCells f) vs) where
  ascending := ascending_modifyVector h.ascending f metric
  described v hv := by
    rcases mem_modifyVector hv with hv | ⟨w, hw, rfl⟩
    · exact h.described v hv
    · exact h.described w hw

/-- The cells of other metrics stay when a vector is changed. -/
theorem cellsAt_modify (metric other : String) (f : List Cell → List Cell)
    (hthere : (vectorAt? metric vs).isSome) :
    cellsAt other (modifyVector metric (Vector.mapCells f) vs) =
      if metric = other then f (cellsAt other vs) else cellsAt other vs := by
  rw [cellsAt, vectorAt?_modifyVector]
  split
  · rename_i he
    subst he
    obtain ⟨v, hv⟩ := Option.isSome_iff_exists.1 hthere
    rw [cellsAt, hv]
    rfl
  · rfl

/-- An empty vector shows no cells. -/
theorem cellsAt_insert {metric : String} (d : Descriptor) (hnew : vectorAt? metric vs = none)
    (other : String) : cellsAt other (insertVector ⟨metric, d, []⟩ vs) = cellsAt other vs := by
  rw [cellsAt, vectorAt?_insertVector hnew]
  split
  · rename_i he
    change metric = other at he
    rw [cellsAt, ← he, hnew]
    rfl
  · rfl

end Arranged

namespace Buffer

/-- The vectors of both kinds are arranged. -/
def Sound (b : Buffer) : Prop :=
  ∀ k, Arranged b.catalog (b.vectors k)

/-- The cells of a kind and metric. -/
def cells (b : Buffer) (k : Kind) (metric : String) : List Cell :=
  cellsAt metric (b.vectors k)

theorem sound_empty (c : Catalog) : (empty c).Sound := by
  intro k
  cases k <;> exact ⟨List.Pairwise.nil, fun _ hv => nomatch hv⟩

theorem cells_empty (c : Catalog) (k : Kind) (metric : String) :
    (empty c).cells k metric = [] := by
  cases k <;> rfl

@[simp] theorem catalog_withVectors (b : Buffer) (vs : List Vector) (k : Kind) :
    (b.withVectors vs k).catalog = b.catalog := by
  cases k <;> rfl

theorem vectors_withVectors (b : Buffer) (vs : List Vector) (k k' : Kind) :
    (b.withVectors vs k).vectors k' = if k = k' then vs else b.vectors k' := by
  cases k <;> cases k' <;> rfl

/-! ## One sample -/

/-- A buffer goes on from another one: it is sound, and its cells of one kind and metric are
changed by a function. -/
structure Follows (b b' : Buffer) (k : Kind) (metric : String) (f : List Cell → List Cell) :
    Prop where
  sound : b'.Sound
  catalog : b'.catalog = b.catalog
  cells : ∀ k' metric', b'.cells k' metric' =
    if k = k' ∧ metric = metric' then f (b.cells k' metric') else b.cells k' metric'

/-- Vectors that are arranged and have their cells make a buffer that follows. -/
theorem Sound.follows {b : Buffer} (h : b.Sound) {vs : List Vector} {k : Kind} {metric : String}
    {f : List Cell → List Cell} (hvs : Arranged b.catalog vs)
    (hcells : ∀ metric', cellsAt metric' vs =
      if metric = metric' then f (b.cells k metric') else b.cells k metric') :
    Follows b (b.withVectors vs k) k metric f where
  sound k' := by
    rw [catalog_withVectors, vectors_withVectors]
    split
    · exact hvs
    · exact h k'
  catalog := catalog_withVectors b vs k
  cells k' metric' := by
    by_cases hk : k = k'
    · subst hk
      rw [Buffer.cells, vectors_withVectors, if_pos rfl, hcells]
      simp
    · rw [Buffer.cells, vectors_withVectors, if_neg hk, if_neg (fun h => hk h.1)]
      rfl

/-- There are vectors for a sample exactly if its metric is described without fault; they show
the cells that were there. -/
theorem Sound.ensure_eq {b : Buffer} (h : b.Sound) (s : Sample) :
    match b.catalog.described? s.metric with
    | none => ∃ r, b.ensure s = .error r
    | some d => ∃ vs v, b.ensure s = .ok vs ∧ Arranged b.catalog vs ∧
        vectorAt? s.metric vs = some v ∧ v.descriptor = d ∧
        ∀ metric, cellsAt metric vs = b.cells s.kind metric := by
  unfold ensure
  by_cases hany : ((b.vectors s.kind).any fun v => v.metric == s.metric) = true
  · obtain ⟨v, hv, hmetric⟩ := List.any_eq_true.1 hany
    rw [beq_iff_eq] at hmetric
    rw [← hmetric, (h s.kind).described v hv]
    simp only
    refine ⟨b.vectors s.kind, v, if_pos (hmetric ▸ hany), h s.kind,
      vectorAt?_of_mem (h s.kind).ascending hv, rfl, fun _ => rfl⟩
  · -- the vector is created, if the descriptor allows it
    have hnew : vectorAt? s.metric (b.vectors s.kind) = none := by
      rw [vectorAt?, List.find?_eq_none]
      intro v hv he
      exact hany (List.any_eq_true.2 ⟨v, hv, he⟩)
    simp only [hany, Bool.false_eq_true, if_false]
    cases hd : b.catalog.described? s.metric with
    | none =>
      simp only
      cases hfind : b.catalog.find? s.metric with
      | none => exact ⟨_, rfl⟩
      | some d =>
        cases hfault : d.fault? (b.catalog.seriesName s.metric) with
        | some cause => exact ⟨.descriptor s.metric cause, by simp only [hfault]⟩
        | none =>
          rw [Catalog.described?_eq_some_iff.2 ⟨hfind, hfault⟩] at hd
          cases hd
    | some d =>
      obtain ⟨hfind, hfault⟩ := Catalog.described?_eq_some_iff.1 hd
      refine ⟨insertVector ⟨s.metric, d, []⟩ (b.vectors s.kind), ⟨s.metric, d, []⟩, ?_,
        (h s.kind).insert hd hnew, ?_, rfl, Arranged.cellsAt_insert d hnew⟩
      · simp only [hfind, hfault]
      · rw [vectorAt?_insertVector hnew, if_pos rfl]

/-- An accepted sample goes to the cells of its kind and metric; any other is rejected and
changes no cell. -/
theorem Sound.recorded {b : Buffer} (h : b.Sound) (s : Sample) :
    if b.catalog.accepts s then
      (b.record s).2 = none ∧
        Follows b (b.record s).1 s.kind s.metric (setCell s.labels s.kept)
    else (∃ r, (b.record s).2 = some r) ∧ Follows b (b.record s).1 s.kind s.metric id := by
  have hstay : Follows b b s.kind s.metric id := ⟨h, rfl, fun _ _ => by simp⟩
  unfold record Catalog.accepts
  cases hneg : (decide (s.kind = .counter) && decide (s.value < 0)) with
  | true => exact ⟨⟨_, rfl⟩, hstay⟩
  | false =>
    have hensure := h.ensure_eq s
    cases hd : b.catalog.described? s.metric with
    | none =>
      rw [hd] at hensure
      obtain ⟨r, hr⟩ := hensure
      rw [hr]
      exact ⟨⟨_, rfl⟩, hstay⟩
    | some d =>
      rw [hd] at hensure
      obtain ⟨vs, v, hvs, harranged, hv, hdesc, hcells⟩ := hensure
      rw [hvs]
      have hfind : (vs.find? fun v => v.metric == s.metric) = some v := hv
      simp only [place, hfind, hdesc, Option.any_some, Bool.not_false, Bool.true_and, beq_iff_eq,
        Bool.false_eq_true, if_false]
      -- the vector is there now, even if the number of labels turns out to be wrong
      by_cases hlength : d.labels.length = s.labels.length
      · simp only [hlength, if_true]
        refine ⟨trivial, h.follows (harranged.modify s.metric _) ?_⟩
        intro metric
        have hthere : (vectorAt? s.metric vs).isSome = true := by
          rw [hv]
          rfl
        refine (Arranged.cellsAt_modify s.metric metric (setCell s.labels s.kept) hthere).trans ?_
        rw [hcells]
      · simp only [hlength, if_false]
        refine ⟨⟨_, rfl⟩, h.follows harranged ?_⟩
        intro metric
        rw [hcells]
        simp

/-- A sample is rejected if it is not accepted. -/
theorem Sound.rejects {b : Buffer} (h : b.Sound) (s : Sample) :
    (b.record s).2.isNone = b.catalog.accepts s := by
  have hs := h.recorded s
  cases haccepts : b.catalog.accepts s with
  | true =>
    rw [haccepts] at hs
    rw [hs.1]
    rfl
  | false =>
    rw [haccepts] at hs
    obtain ⟨r, hr⟩ := hs.1
    rw [hr]
    rfl

/-- A sample leaves the buffer sound, with its catalog. -/
theorem Sound.record {b : Buffer} (h : b.Sound) (s : Sample) :
    (b.record s).1.Sound ∧ (b.record s).1.catalog = b.catalog := by
  have hs := h.recorded s
  split at hs <;> exact ⟨hs.2.sound, hs.2.catalog⟩

/-- A sample of a kind and metric that is accepted. -/
def takes (c : Catalog) (k : Kind) (metric : String) (s : Sample) : Bool :=
  c.accepts s && s.kind = k && s.metric = metric

theorem Sound.cells_record {b : Buffer} (h : b.Sound) (s : Sample) (k : Kind) (metric : String) :
    (b.record s).1.cells k metric =
      if takes b.catalog k metric s then setCell s.labels s.kept (b.cells k metric)
      else b.cells k metric := by
  have hs := h.recorded s
  cases haccepts : b.catalog.accepts s with
  | true =>
    rw [haccepts] at hs
    rw [hs.2.cells]
    simp [takes, haccepts]
  | false =>
    rw [haccepts] at hs
    rw [hs.2.cells]
    simp [takes, haccepts]

/-! ## Several samples -/

theorem Sound.recordAll {b : Buffer} (h : b.Sound) (samples : List Sample) :
    (b.recordAll samples).1.Sound ∧ (b.recordAll samples).1.catalog = b.catalog := by
  induction samples generalizing b with
  | nil => exact ⟨h, rfl⟩
  | cons s samples ih =>
    obtain ⟨hsound, hcatalog⟩ := h.record s
    obtain ⟨hrest, hsame⟩ := ih hsound
    exact ⟨hrest, hsame.trans hcatalog⟩

/-- Samples are set one after the other, if they are accepted. -/
theorem Sound.cells_recordAll {b : Buffer} (h : b.Sound) (samples : List Sample) (k : Kind)
    (metric : String) :
    (b.recordAll samples).1.cells k metric =
      (samples.filter (takes b.catalog k metric)).foldl
        (fun cells s => setCell s.labels s.kept cells) (b.cells k metric) := by
  induction samples generalizing b with
  | nil => rfl
  | cons s samples ih =>
    obtain ⟨hsound, hcatalog⟩ := h.record s
    have hrest := ih hsound
    rw [hcatalog, h.cells_record] at hrest
    rw [List.filter_cons]
    split
    · rename_i hs
      rw [if_pos hs] at hrest
      exact hrest
    · rename_i hs
      rw [if_neg hs] at hrest
      exact hrest

/-- The buffer that samples fill. -/
def filled (c : Catalog) (samples : List Sample) : Buffer :=
  ((empty c).recordAll samples).1

theorem sound_filled (c : Catalog) (samples : List Sample) : (filled c samples).Sound :=
  ((sound_empty c).recordAll samples).1

theorem catalog_filled (c : Catalog) (samples : List Sample) :
    (filled c samples).catalog = c :=
  ((sound_empty c).recordAll samples).2

/-- The cells of a filled buffer are the series of the accepted samples. -/
theorem cells_filled (c : Catalog) (samples : List Sample) (k : Kind) (metric : String) :
    (filled c samples).cells k metric = series (samples.filter (takes c k metric)) := by
  rw [filled, (sound_empty c).cells_recordAll, cells_empty]
  rfl

/-- No sample is rejected if all are accepted. -/
theorem Sound.rejections {b : Buffer} (h : b.Sound) {samples : List Sample}
    (haccepts : ∀ s ∈ samples, b.catalog.accepts s = true) : (b.recordAll samples).2 = [] := by
  induction samples generalizing b with
  | nil => rfl
  | cons s samples ih =>
    obtain ⟨hsound, hcatalog⟩ := h.record s
    have hnone : (b.record s).2 = none := by
      have hs := h.rejects s
      rw [haccepts s List.mem_cons_self, Option.isNone_iff_eq_none] at hs
      exact hs
    have hrest := ih hsound (by
      intro t ht
      rw [hcatalog]
      exact haccepts t (List.mem_cons_of_mem _ ht))
    change (b.record s).2.toList ++ ((b.record s).1.recordAll samples).2 = []
    rw [hnone, hrest]
    rfl

/-! ## Families -/

/-- The point that shows a cell. -/
def point (d : Descriptor) (c : Cell) : Point :=
  { labels := (d.labels.zip c.labels).mergeSort fun a b => a.1 ≤ b.1
    value := c.value }

/-- The points of a family show the cells of its vector. -/
theorem points_family (c : Catalog) (k : Kind) (v : Vector) :
    (family c k v).points.Perm (v.cells.map (point v.descriptor)) :=
  List.mergeSort_perm _ _

/-- A family has points exactly if its vector has cells. -/
theorem isEmpty_points_family (c : Catalog) (k : Kind) (v : Vector) :
    (family c k v).points.isEmpty = v.cells.isEmpty := by
  rw [(points_family c k v).isEmpty_eq, List.isEmpty_map]

theorem mem_families {b : Buffer} {f : Family} :
    f ∈ b.families ↔ ∃ k, ∃ v ∈ b.vectors k, v.cells ≠ [] ∧ f = family b.catalog k v := by
  have hpoints (k : Kind) (v : Vector) :
      (!(family b.catalog k v).points.isEmpty) = true ↔ v.cells ≠ [] := by
    simp [isEmpty_points_family]
  rw [families, List.mem_filter, List.mem_append, List.mem_map, List.mem_map]
  constructor
  · rintro ⟨⟨v, hv, rfl⟩ | ⟨v, hv, rfl⟩, hcells⟩
    · exact ⟨.gauge, v, hv, (hpoints _ v).1 hcells, rfl⟩
    · exact ⟨.counter, v, hv, (hpoints _ v).1 hcells, rfl⟩
  · rintro ⟨k, v, hv, hcells, rfl⟩
    refine ⟨?_, (hpoints k v).2 hcells⟩
    cases k with
    | gauge => exact .inl ⟨v, hv, rfl⟩
    | counter => exact .inr ⟨v, hv, rfl⟩

/-- A vector has the cells of its metric. -/
theorem Sound.cells_of_mem {b : Buffer} (h : b.Sound) {k : Kind} {v : Vector}
    (hv : v ∈ b.vectors k) : b.cells k v.metric = v.cells := by
  rw [cells, cellsAt, vectorAt?_of_mem (h k).ascending hv]
  rfl

/-- A metric with cells has a vector. -/
theorem exists_vector_of_cells {b : Buffer} {k : Kind} {metric : String}
    (hcells : b.cells k metric ≠ []) : ∃ v ∈ b.vectors k, v.metric = metric := by
  cases hat : vectorAt? metric (b.vectors k) with
  | none =>
    rw [cells, cellsAt, hat] at hcells
    exact absurd rfl hcells
  | some v => exact ⟨v, List.mem_of_find?_eq_some hat, metric_of_vectorAt? hat⟩

/-- The families of a buffer show its cells, metric by metric. -/
theorem Sound.mem_families_iff {b : Buffer} (h : b.Sound) {f : Family} :
    f ∈ b.families ↔ ∃ k metric d, b.catalog.described? metric = some d ∧
      b.cells k metric ≠ [] ∧ f = family b.catalog k ⟨metric, d, b.cells k metric⟩ := by
  rw [mem_families]
  constructor
  · rintro ⟨k, v, hv, hcells, rfl⟩
    have hsame := h.cells_of_mem hv
    refine ⟨k, v.metric, v.descriptor, (h k).described v hv, ?_, ?_⟩
    · rw [hsame]
      exact hcells
    · rw [hsame]
  · rintro ⟨k, metric, d, hd, hcells, rfl⟩
    obtain ⟨v, hv, rfl⟩ := exists_vector_of_cells hcells
    have hsame := h.cells_of_mem hv
    have hdescribed := (h k).described v hv
    rw [hd, Option.some.injEq] at hdescribed
    refine ⟨k, v, hv, hsame ▸ hcells, ?_⟩
    rw [hsame, hdescribed]

end Buffer

end SapMonitor.Series
