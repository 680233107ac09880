import Mathlib.Data.List.Induction
import Mathlib.Data.List.Nodup
import SapMonitor.Series.Buffer

/-!
# Series of a metric

A vector looks a sample up by the key of its label values.  So the samples of a metric are
sorted into cells by their keys: a cell keeps the labels of the first sample with its key and
the value of the last one.  Where no two different label lists have the same key, that is one
cell for each label list; where two do, they share one.  Nothing here depends on how a key is
computed.

Main results:

- `nodup_keys_series`, `mem_keys_series`: there is one cell for each key of the samples.
- `cellAt?_series`: what the cell of a key shows.
- `labels_series_of_apart`: the cells if no label lists share a key.
-/

namespace SapMonitor.Series

/-! ## Cells by their keys -/

/-- The key by which a cell is found. -/
def Cell.key (c : Cell) : UInt64 :=
  cellKey c.labels

/-- The key by which the cell of a sample is found. -/
def Sample.key (s : Sample) : UInt64 :=
  cellKey s.labels

/-- The value that is kept of a sample. -/
def Sample.kept (s : Sample) : Float :=
  Buffer.keptValue s.kind s.value

/-- The cell with a key. -/
def cellAt? (key : UInt64) (cells : List Cell) : Option Cell :=
  cells.find? fun c => c.key == key

/-- Setting a cell keeps the keys of the others, and adds its own at the end if it is new. -/
theorem keys_setCell (labels : List String) (value : Float) (cells : List Cell) :
    (setCell labels value cells).map Cell.key =
      if cellKey labels ∈ cells.map Cell.key then cells.map Cell.key
      else cells.map Cell.key ++ [cellKey labels] := by
  induction cells with
  | nil => simp [setCell, Cell.key]
  | cons c cells ih =>
    by_cases hkey : cellKey c.labels = cellKey labels
    · simp [setCell, Cell.key, hkey]
    · have hne : cellKey labels ≠ c.key := fun h => hkey h.symm
      simp only [setCell, if_neg hkey, List.map_cons, ih, List.mem_cons, hne, false_or]
      split <;> rfl

/-- Setting a cell replaces its value, or creates it with the labels. -/
theorem cellAt?_setCell (key : UInt64) (labels : List String) (value : Float)
    (cells : List Cell) :
    cellAt? key (setCell labels value cells) =
      if cellKey labels = key then
        some ⟨((cellAt? key cells).map Cell.labels).getD labels, value⟩
      else cellAt? key cells := by
  induction cells with
  | nil => by_cases hkey : cellKey labels = key <;> simp [setCell, cellAt?, Cell.key, hkey]
  | cons c cells ih =>
    unfold cellAt? at ih ⊢
    by_cases hc : cellKey c.labels = cellKey labels
    · by_cases hkey : cellKey labels = key <;>
        simp [setCell, Cell.key, hc, hkey]
    · by_cases hkey : c.key = key
      · have hne : cellKey labels ≠ key := fun h => hc (hkey.trans h.symm)
        simp [setCell, hc, hkey, hne]
      · simp [setCell, hc, hkey, ih]

/-! ## Cells of samples -/

/-- The cells that samples of one metric are sorted into. -/
def series (samples : List Sample) : List Cell :=
  samples.foldl (fun cells s => setCell s.labels s.kept cells) []

@[simp] theorem series_nil : series [] = [] :=
  rfl

theorem series_concat (samples : List Sample) (s : Sample) :
    series (samples ++ [s]) = setCell s.labels s.kept (series samples) :=
  List.foldl_append

/-- No key has two cells. -/
theorem nodup_keys_series (samples : List Sample) : ((series samples).map Cell.key).Nodup := by
  induction samples using List.reverseRecOn with
  | nil => exact List.nodup_nil
  | append_singleton samples s ih =>
    rw [series_concat, keys_setCell]
    split
    · exact ih
    · rename_i hnew
      exact List.nodup_append.2 ⟨ih, List.nodup_singleton _, by
        intro a ha b hb hab
        rw [List.mem_singleton] at hb
        exact hnew (hb ▸ hab ▸ ha)⟩

/-- The keys of the cells are those of the samples. -/
theorem mem_keys_series {samples : List Sample} {key : UInt64} :
    key ∈ (series samples).map Cell.key ↔ ∃ s ∈ samples, s.key = key := by
  induction samples using List.reverseRecOn with
  | nil => simp
  | append_singleton samples s ih =>
    have hiff : key ∈ (series (samples ++ [s])).map Cell.key ↔
        key ∈ (series samples).map Cell.key ∨ s.key = key := by
      rw [series_concat, keys_setCell]
      split
      · rename_i hold
        refine ⟨.inl, fun h => h.elim id fun h => ?_⟩
        rw [← h]
        exact hold
      · rw [List.mem_append, List.mem_singleton]
        exact or_congr_right eq_comm
    rw [hiff, ih]
    simp only [List.mem_append, List.mem_singleton, or_and_right, exists_or, exists_eq_left]

/-- The cell of a key keeps the labels of the first sample with the key and the value of the
last one. -/
theorem cellAt?_series (samples : List Sample) (key : UInt64) :
    cellAt? key (series samples) =
      (samples.find? fun s => s.key == key).bind fun first =>
        (samples.reverse.find? fun s => s.key == key).map fun last =>
          ⟨first.labels, last.kept⟩ := by
  induction samples using List.reverseRecOn with
  | nil => rfl
  | append_singleton samples s ih =>
    rw [series_concat, cellAt?_setCell, ih, List.reverse_concat, List.find?_cons,
      List.find?_append, List.find?_singleton]
    by_cases hs : s.key = key
    · have hkey : cellKey s.labels = key := hs
      rw [if_pos hkey]
      cases hfirst : samples.find? fun s => s.key == key with
      | none => simp [hs]
      | some first =>
        have hlast : ∃ last, (samples.reverse.find? fun s => s.key == key) = some last := by
          rw [← Option.isSome_iff_exists, List.find?_isSome]
          have hkey := List.find?_some hfirst
          exact ⟨first, List.mem_reverse.2 (List.mem_of_find?_eq_some hfirst), hkey⟩
        obtain ⟨last, hlast⟩ := hlast
        simp [hs, hlast]
    · have hkey : cellKey s.labels ≠ key := hs
      have hbeq : (s.key == key) = false := by simpa using hs
      rw [if_neg hkey]
      simp [hbeq]

/-- A cell is found under its own key. -/
theorem cellAt?_of_mem {samples : List Sample} {c : Cell} (h : c ∈ series samples) :
    cellAt? c.key (series samples) = some c := by
  have hnodup := nodup_keys_series samples
  generalize series samples = cells at h hnodup
  induction cells with
  | nil => cases h
  | cons d cells ih =>
    rw [List.map_cons, List.nodup_cons] at hnodup
    rcases List.mem_cons.1 h with rfl | hc
    · simp [cellAt?]
    · have hne : d.key ≠ c.key := fun he => hnodup.1 (he ▸ List.mem_map_of_mem hc)
      rw [cellAt?, List.find?_cons_of_neg (by simpa using hne)]
      exact ih hc hnodup.2

/-- What a cell shows was sampled: its labels first, and its value last. -/
theorem sampled_of_mem {samples : List Sample} {c : Cell} (h : c ∈ series samples) :
    (∃ s ∈ samples, s.labels = c.labels) ∧
      ∃ before s after, samples = before ++ s :: after ∧ s.key = c.key ∧ s.kept = c.value ∧
        ∀ t ∈ after, t.key ≠ c.key := by
  have hfound := cellAt?_of_mem h
  rw [cellAt?_series, Option.bind_eq_some_iff] at hfound
  obtain ⟨first, hfirst, hfound⟩ := hfound
  rw [Option.map_eq_some_iff] at hfound
  obtain ⟨last, hlast, hc⟩ := hfound
  refine ⟨⟨first, List.mem_of_find?_eq_some hfirst, congrArg Cell.labels hc⟩, ?_⟩
  obtain ⟨hkey, after, before, hsplit, hafter⟩ := List.find?_eq_some_iff_append.1 hlast
  refine ⟨before.reverse, last, after.reverse, ?_, by simpa using hkey, congrArg Cell.value hc, ?_⟩
  · rw [← List.reverse_reverse samples, hsplit]
    simp
  · intro t ht
    simpa using hafter t (List.mem_reverse.1 ht)

/-! ## Label lists with keys of their own -/

/-- No two different label lists of the samples have the same key. -/
def Apart (samples : List Sample) : Prop :=
  ∀ s ∈ samples, ∀ t ∈ samples, s.key = t.key → s.labels = t.labels

/-- Where no label lists share a key, there is one cell for each of them. -/
theorem labels_series_of_apart {samples : List Sample} (h : Apart samples) :
    ((series samples).map Cell.labels).Nodup ∧
      ∀ labels, labels ∈ (series samples).map Cell.labels ↔
        ∃ s ∈ samples, s.labels = labels := by
  constructor
  · have hkeys := nodup_keys_series samples
    have hmap : (series samples).map Cell.key = ((series samples).map Cell.labels).map cellKey := by
      rw [List.map_map]
      rfl
    rw [hmap] at hkeys
    exact hkeys.of_map cellKey
  · intro labels
    rw [List.mem_map]
    constructor
    · rintro ⟨c, hc, rfl⟩
      exact (sampled_of_mem hc).1
    · rintro ⟨s, hs, rfl⟩
      obtain ⟨c, hc, hkey⟩ := List.mem_map.1 (mem_keys_series.2 ⟨s, hs, rfl⟩)
      obtain ⟨t, ht, hlabels⟩ := (sampled_of_mem hc).1
      refine ⟨c, hc, ?_⟩
      have hsame : t.key = s.key := by
        rw [← hkey, Sample.key, hlabels]
        rfl
      rw [← hlabels]
      exact h t ht s hs hsame

end SapMonitor.Series
