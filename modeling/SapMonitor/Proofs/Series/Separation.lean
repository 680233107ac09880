import Mathlib.Data.List.Perm.Subperm
import SapMonitor.Proofs.Series.Recording

/-!
# Series that are kept apart

The series of a metric should be told apart by their label values.  A buffer tells them apart
by a key, the hash of the text that the values run into, so it keeps them apart exactly as long
as no two lists of values have the same key.  Two lists that run into the same text always have;
other lists can have it by a collision of the hash.  Where two share a key, their samples share
one series: it shows the values of the first list and the number of the last sample.

Main results:

- `keepsApart_iff`: a family keeps its samples apart exactly if their labels share no key.
- `Buffer.reported_once`: what a buffer reports of samples that it accepts.
- `Buffer.rooms_merged`: two series that are merged.
-/

namespace SapMonitor.Series

/-- Cells that keep samples apart: there is one for each list of label values, and it has the
value of the last sample with the list. -/
structure CellPerLabels (samples : List Sample) (cells : List Cell) : Prop where
  once : (cells.map Cell.labels).Nodup
  sampled : ∀ labels, labels ∈ cells.map Cell.labels ↔ ∃ s ∈ samples, s.labels = labels
  last : ∀ c ∈ cells, ∃ before s after, samples = before ++ s :: after ∧ s.labels = c.labels ∧
    s.kept = c.value ∧ ∀ t ∈ after, t.labels ≠ c.labels

/-- Points that keep samples apart. -/
def KeepsApart (d : Descriptor) (samples : List Sample) (points : List Point) : Prop :=
  ∃ cells, points.Perm (cells.map (Buffer.point d)) ∧ CellPerLabels samples cells

/-- Where no label lists share a key, the series are kept apart. -/
theorem cellPerLabels_series {samples : List Sample} (h : Apart samples) :
    CellPerLabels samples (series samples) where
  once := (labels_series_of_apart h).1
  sampled := (labels_series_of_apart h).2
  last c hc := by
    obtain ⟨⟨first, hfirst, hlabels⟩, before, s, after, hsplit, hkey, hvalue, hafter⟩ :=
      sampled_of_mem hc
    have hs : s ∈ samples := hsplit ▸ List.mem_append_right _ List.mem_cons_self
    have hfirstkey : first.key = c.key := congrArg cellKey hlabels
    refine ⟨before, s, after, hsplit, ?_, hvalue, ?_⟩
    · rw [← hlabels]
      exact h s hs first hfirst (hkey.trans hfirstkey.symm)
    · intro t ht he
      exact hafter t ht (congrArg cellKey he)

/-- Cells that keep samples apart have no key twice if they are as many as the series. -/
theorem CellPerLabels.nodup_keys {samples : List Sample} {cells : List Cell}
    (h : CellPerLabels samples cells) (hlength : cells.length = (series samples).length) :
    (cells.map Cell.key).Nodup := by
  have hsub : (series samples).map Cell.key ⊆ cells.map Cell.key := by
    intro key hkey
    obtain ⟨s, hs, rfl⟩ := mem_keys_series.1 hkey
    obtain ⟨c, hc, hlabels⟩ := List.mem_map.1 ((h.sampled s.labels).2 ⟨s, hs, rfl⟩)
    exact List.mem_map.2 ⟨c, hc, congrArg cellKey hlabels⟩
  have hperm : ((series samples).map Cell.key).Perm (cells.map Cell.key) :=
    ((nodup_keys_series samples).subperm hsub).perm_of_length_le (by simp [hlength])
  exact hperm.nodup_iff.1 (nodup_keys_series samples)

/-- So the labels of the samples share no key. -/
theorem CellPerLabels.apart {samples : List Sample} {cells : List Cell}
    (h : CellPerLabels samples cells) (hlength : cells.length = (series samples).length) :
    Apart samples := by
  have hkeys := h.nodup_keys hlength
  intro s hs t ht he
  obtain ⟨c, hc, hcs⟩ := List.mem_map.1 ((h.sampled s.labels).2 ⟨s, hs, rfl⟩)
  obtain ⟨e, he', het⟩ := List.mem_map.1 ((h.sampled t.labels).2 ⟨t, ht, rfl⟩)
  have hsame : c.key = e.key := (congrArg cellKey hcs).trans (he.trans (congrArg cellKey het).symm)
  rw [← hcs, ← het, List.inj_on_of_nodup_map hkeys hc he' hsame]

/-- A family keeps the samples of its metric apart exactly if their labels share no key. -/
theorem keepsApart_iff (c : Catalog) (k : Kind) (metric : String) (d : Descriptor)
    (samples : List Sample) :
    KeepsApart d samples (Buffer.family c k ⟨metric, d, series samples⟩).points ↔
      Apart samples := by
  have hpoints := Buffer.points_family c k ⟨metric, d, series samples⟩
  constructor
  · rintro ⟨cells, hperm, hcells⟩
    have hlength := (hperm.symm.trans hpoints).length_eq
    rw [List.length_map, List.length_map] at hlength
    exact hcells.apart hlength
  · intro h
    exact ⟨series samples, hpoints, cellPerLabels_series h⟩

namespace Catalog

/-- The metric of an accepted sample is described without fault. -/
theorem described_of_accepts {c : Catalog} {s : Sample} (h : c.accepts s = true) :
    ∃ d, c.described? s.metric = some d := by
  rw [accepts, Bool.and_eq_true, Option.any_eq_true_iff_get] at h
  exact Option.isSome_iff_exists.1 h.2.1

end Catalog

namespace Buffer

/-- The samples of the kind and metric of a sample. -/
def alike (s : Sample) (samples : List Sample) : List Sample :=
  samples.filter fun t => t.kind = s.kind && t.metric = s.metric

theorem mem_alike {s : Sample} {samples : List Sample} (h : s ∈ samples) : s ∈ alike s samples := by
  simp [alike, h]

/-- The cells of a filled buffer are the series of the samples, if all are accepted. -/
theorem cells_filled_of_accepts {c : Catalog} {samples : List Sample}
    (haccepts : ∀ s ∈ samples, c.accepts s = true) (s : Sample) :
    (filled c samples).cells s.kind s.metric = series (alike s samples) := by
  rw [cells_filled]
  congr 1
  refine List.filter_congr fun t ht => ?_
  rw [takes, haccepts t ht, Bool.true_and]

/-- Its families are those of the metrics and kinds of the samples. -/
theorem mem_families_filled_iff {c : Catalog} {samples : List Sample}
    (haccepts : ∀ s ∈ samples, c.accepts s = true) {f : Family} :
    f ∈ (filled c samples).families ↔ ∃ s ∈ samples, ∃ d, c.described? s.metric = some d ∧
      f = family c s.kind ⟨s.metric, d, series (alike s samples)⟩ := by
  rw [(sound_filled c samples).mem_families_iff, catalog_filled]
  constructor
  · rintro ⟨k, metric, d, hd, hcells, rfl⟩
    rw [cells_filled] at hcells
    obtain ⟨cell, hcell⟩ := List.exists_mem_of_ne_nil _ hcells
    obtain ⟨s, htaken, -⟩ := (sampled_of_mem hcell).1
    obtain ⟨hs, htakes⟩ := List.mem_filter.1 htaken
    simp only [takes, Bool.and_eq_true, decide_eq_true_eq] at htakes
    obtain ⟨⟨-, rfl⟩, rfl⟩ := htakes
    exact ⟨s, hs, d, hd, by rw [cells_filled_of_accepts haccepts]⟩
  · rintro ⟨s, hs, d, hd, rfl⟩
    refine ⟨s.kind, s.metric, d, hd, ?_, by rw [cells_filled_of_accepts haccepts]⟩
    rw [cells_filled_of_accepts haccepts]
    intro hnil
    have hkey := mem_keys_series.2 ⟨s, mem_alike hs, rfl⟩
    rw [hnil] at hkey
    cases hkey

/-- If a buffer accepts samples, it rejects none of them, and reports one family for each
metric and kind among them.  The family shows the series of these samples, and keeps them
apart exactly if their labels share no key. -/
theorem reported_once (c : Catalog) (samples : List Sample)
    (haccepts : ∀ s ∈ samples, c.accepts s = true) :
    ((empty c).recordAll samples).2 = [] ∧
      (∀ f ∈ (filled c samples).families, ∃ s ∈ samples,
        f.kind = s.kind ∧ f.name = c.seriesName s.metric) ∧
      ∀ s ∈ samples, ∃ d, c.described? s.metric = some d ∧
        ∃ f ∈ (filled c samples).families,
          (∀ g ∈ (filled c samples).families,
            g.kind = s.kind ∧ g.name = c.seriesName s.metric ↔ g = f) ∧
          f.points.Perm ((series (alike s samples)).map (point d)) ∧
          (KeepsApart d (alike s samples) f.points ↔ Apart (alike s samples)) := by
  refine ⟨(sound_empty c).rejections haccepts, ?_, ?_⟩
  · intro f hf
    obtain ⟨s, hs, d, -, rfl⟩ := (mem_families_filled_iff haccepts).1 hf
    exact ⟨s, hs, rfl, rfl⟩
  · intro s hs
    obtain ⟨d, hd⟩ := Catalog.described_of_accepts (haccepts s hs)
    refine ⟨d, hd, family c s.kind ⟨s.metric, d, series (alike s samples)⟩,
      (mem_families_filled_iff haccepts).2 ⟨s, hs, d, hd, rfl⟩, ?_, points_family _ _ _,
      keepsApart_iff c s.kind s.metric d _⟩
    intro g hg
    obtain ⟨t, ht, e, he, rfl⟩ := (mem_families_filled_iff haccepts).1 hg
    constructor
    · rintro ⟨hkind, hname⟩
      have hmetric : t.metric = s.metric := Catalog.seriesName_injective
        (Catalog.ne_empty_of_described he) (Catalog.ne_empty_of_described hd) hname
      have hsame : e = d := by
        rw [hmetric, hd, Option.some.injEq] at he
        exact he.symm
      have hkind' : t.kind = s.kind := hkind
      rw [alike, hkind', hmetric, hsame]
      rfl
    · intro heq
      rw [heq]
      exact ⟨rfl, rfl⟩

/-! ### Series that are merged -/

/-- A catalog with one metric of two labels. -/
def roomCatalog : Catalog :=
  (Catalog.empty "test").insert "temperature" "Some gauge" ["room", "floor"]

/-- The temperature of a room. -/
def roomSample (value : Float) (room floor : String) : Sample :=
  .gauge "temperature" value [room, floor]

/-- Two rooms whose labels have different keys have a series each. -/
theorem reported_once_rooms :
    (∀ s ∈ [roomSample 1 "ab" "c", roomSample 2 "a" "d"], roomCatalog.accepts s = true) ∧
      ∃ d, roomCatalog.described? "temperature" = some d ∧
        ∃ f ∈ (filled roomCatalog [roomSample 1 "ab" "c", roomSample 2 "a" "d"]).families,
          f.points.Perm [point d ⟨["ab", "c"], 1⟩, point d ⟨["a", "d"], 2⟩] := by
  have haccepts : ∀ s ∈ [roomSample 1 "ab" "c", roomSample 2 "a" "d"],
      roomCatalog.accepts s = true := by decide
  have hseries : series (alike (roomSample 1 "ab" "c")
      [roomSample 1 "ab" "c", roomSample 2 "a" "d"]) = [⟨["ab", "c"], 1⟩, ⟨["a", "d"], 2⟩] := by
    rfl
  obtain ⟨d, hd, f, hf, -, hpoints, -⟩ := (reported_once roomCatalog _ haccepts).2.2
    (roomSample 1 "ab" "c") List.mem_cons_self
  rw [hseries] at hpoints
  exact ⟨haccepts, d, hd, f, hf, hpoints⟩

/-- Two samples of one metric share one series if their labels differ but have one key: it shows
the labels of the first and the value of the second. -/
theorem merged_of_key_eq {c : Catalog} {s t : Sample} (hs : c.accepts s = true)
    (ht : c.accepts t = true) (hkind : s.kind = t.kind) (hmetric : s.metric = t.metric)
    (hkey : s.key = t.key) (hlabels : s.labels ≠ t.labels) :
    ∃ d, c.described? s.metric = some d ∧ ∀ f ∈ (filled c [s, t]).families,
      f.points = [point d ⟨s.labels, t.kept⟩] ∧ ¬ KeepsApart d [s, t] f.points := by
  have haccepts : ∀ u ∈ [s, t], c.accepts u = true := by simp [hs, ht]
  have halike : ∀ u ∈ [s, t], u.metric = s.metric ∧ alike u [s, t] = [s, t] := by
    simp [alike, hkind, hmetric]
  have hcell : cellKey s.labels = cellKey t.labels := hkey
  have hseries : series [s, t] = [⟨s.labels, t.kept⟩] := by
    simp [series, setCell, hcell]
  obtain ⟨d, hd⟩ := Catalog.described_of_accepts hs
  refine ⟨d, hd, ?_⟩
  intro f hf
  obtain ⟨u, hu, e, he, rfl⟩ := (mem_families_filled_iff haccepts).1 hf
  obtain ⟨humetric, hall⟩ := halike u hu
  rw [humetric, hd, Option.some.injEq] at he
  rw [humetric, hall, ← he]
  constructor
  · rw [hseries]
    exact List.perm_singleton.1 (points_family c u.kind ⟨s.metric, d, [⟨s.labels, t.kept⟩]⟩)
  · rw [keepsApart_iff]
    intro h
    exact hlabels (h s List.mem_cons_self t (List.mem_cons_of_mem _ List.mem_cons_self) hkey)

/-- Labels can have one key without running into one text. -/
example : cellKey ["itufh6by5edjk"] = cellKey ["q553yvflb2cxf"] := by decide

/-- Two rooms with different labels share one series. -/
theorem rooms_merged :
    roomCatalog.accepts (roomSample 1 "ab" "c") = true ∧
      roomCatalog.accepts (roomSample 2 "a" "bc") = true ∧
      (roomSample 1 "ab" "c").labels ≠ (roomSample 2 "a" "bc").labels ∧
      ∃ d, roomCatalog.described? "temperature" = some d ∧
        ∀ f ∈ (filled roomCatalog [roomSample 1 "ab" "c", roomSample 2 "a" "bc"]).families,
          f.points = [point d ⟨["ab", "c"], 2⟩] ∧
            ¬ KeepsApart d [roomSample 1 "ab" "c", roomSample 2 "a" "bc"] f.points := by
  have hnear : roomCatalog.accepts (roomSample 1 "ab" "c") = true := by decide
  have hfar : roomCatalog.accepts (roomSample 2 "a" "bc") = true := by decide
  have hlabels : (roomSample 1 "ab" "c").labels ≠ (roomSample 2 "a" "bc").labels := by decide
  have hkept : (roomSample 2 "a" "bc").kept = 2 := rfl
  obtain ⟨d, hd, hmerged⟩ :=
    merged_of_key_eq hnear hfar (by decide) (by decide) (by decide) hlabels
  rw [hkept] at hmerged
  exact ⟨hnear, hfar, hlabels, d, hd, hmerged⟩

end Buffer

end SapMonitor.Series
