import SapMonitor.LogStore.Traffic
import SapMonitor.Proofs.LogStore.Keys

/-!
# Filing and taking lines

Streams are found by their keys, and a key belongs to one label set, so that every label set
has one stream at most.  A line that is filed goes to the end of the stream of its labels,
and a stream that is taken is left empty; whatever is under other labels stays.

Main results:

- `Keyed.appendLine_eq`: filing a line changes the stream of its labels alone.
- `Keyed.takeLines_eq`: taking lines empties one stream.
- `Keyed.under_slot`: what waits under the labels of a stream are the lines of that stream.
- `perm_of_under`: lines that agree under all labels are the same lines.
-/

namespace SapMonitor.LogStore

/-! ## Lines under labels -/

/-- A line under labels: its labels, and its time and text. -/
abbrev Entry := LabelSet × (Int × String)

/-- The lines of streams under their labels. -/
def entries (streams : List Stream) : List Entry :=
  streams.flatMap fun s => s.values.map fun v => (s.labels, v)

/-- The lines that wait, under their labels. -/
def waiting (streams : List (String × Stream)) : List Entry :=
  entries (streams.map Prod.snd)

/-- The lines under some labels, in their order. -/
def under (labels : LabelSet) (es : List Entry) : List Entry :=
  es.filter fun e => e.1 = labels

/-- What a line is filed as by a client with the name. -/
def LogLine.entry (l : LogLine) (name : String) : Entry :=
  ((l.named name).labels, (l.moment.epochNanos, l.text))

@[simp] theorem entries_append (ss ts : List Stream) :
    entries (ss ++ ts) = entries ss ++ entries ts := by
  simp [entries]

@[simp] theorem under_append (labels : LabelSet) (es fs : List Entry) :
    under labels (es ++ fs) = under labels es ++ under labels fs := by
  simp [under]

@[simp] theorem waiting_append (ss ts : List (String × Stream)) :
    waiting (ss ++ ts) = waiting ss ++ waiting ts := by
  simp [waiting]

/-- The lines of a stream are under its labels, and none of them under others. -/
theorem under_entries_singleton (labels : LabelSet) (s : Stream) :
    under labels (entries [s]) = if labels = s.labels then entries [s] else [] := by
  by_cases h : labels = s.labels
  · rw [if_pos h, under, List.filter_eq_self]
    intro e he
    obtain ⟨v, -, rfl⟩ : ∃ v ∈ s.values, (s.labels, v) = e := by simpa [entries] using he
    simp [h]
  · rw [if_neg h, under, List.filter_eq_nil_iff]
    intro e he
    obtain ⟨v, -, rfl⟩ : ∃ v ∈ s.values, (s.labels, v) = e := by simpa [entries] using he
    simpa using Ne.symm h

/-- Lines that agree under all labels are the same lines, each as many times. -/
theorem perm_of_under {es fs : List Entry} (h : ∀ labels, under labels es = under labels fs) :
    es.Perm fs := by
  rw [List.perm_iff_count]
  intro e
  have hcount (es : List Entry) : (under e.1 es).count e = es.count e := by
    rw [under, List.count_filter]
    simp
  rw [← hcount es, ← hcount fs, h]

/-- As many lines are under labels as are in the streams. -/
theorem length_entries (streams : List Stream) : (entries streams).length = batchLines streams := by
  induction streams with
  | nil => rfl
  | cons s streams ih =>
    rw [batchLines, ← ih]
    simp [entries]

theorem length_waiting (streams : List (String × Stream)) :
    (waiting streams).length = linesIn streams := by
  induction streams with
  | nil => rfl
  | cons q streams ih =>
    rw [linesIn, ← ih]
    simp [waiting, entries]

/-! ## Streams and keys -/

/-- Streams that are found by the texts of their labels. -/
structure Keyed (streams : List (String × Stream)) : Prop where
  key : ∀ q ∈ streams, q.1 = q.2.labels.text
  plain : ∀ q ∈ streams, q.2.labels.Plain
  distinct : (streams.map Prod.fst).Nodup

/-- Streams with the stream of some labels among them. -/
def slot (front : List (String × Stream)) (labels : LabelSet) (rest : List (String × Stream))
    (values : List (Int × String)) : List (String × Stream) :=
  front ++ (labels.text, ⟨labels, values⟩) :: rest

variable {front rest : List (String × Stream)} {labels : LabelSet} {values : List (Int × String)}

theorem waiting_slot (front rest : List (String × Stream)) (labels : LabelSet)
    (values : List (Int × String)) : waiting (slot front labels rest values) =
      waiting front ++ (entries [⟨labels, values⟩] ++ waiting rest) := by
  simp [waiting, slot, entries]

/-- Only the stream of the labels is affected by its lines. -/
theorem mem_slot {values' : List (Int × String)} {q : String × Stream}
    (hq : q ∈ slot front labels rest values') :
    q ∈ slot front labels rest values ∨ q.2.values = values' := by
  rw [slot, List.mem_append, List.mem_cons] at hq
  rcases hq with hfront | rfl | hrest
  · exact .inl (by simp [slot, hfront])
  · exact .inr rfl
  · exact .inl (by simp [slot, hrest])

/-- One more line of a stream comes after those it has. -/
theorem entries_concat (labels : LabelSet) (values : List (Int × String)) (value : Int × String) :
    entries [⟨labels, values ++ [value]⟩] = entries [⟨labels, values⟩] ++ [(labels, value)] := by
  simp [entries]

/-- A stream without lines has none under its labels. -/
theorem entries_empty (labels : LabelSet) : entries [⟨labels, []⟩] = [] :=
  rfl

namespace Keyed

/-- No streams are keyed. -/
theorem nil : Keyed [] where
  key := by simp
  plain := by simp
  distinct := by simp

/-- Some of keyed streams are keyed. -/
theorem sublist {streams streams' : List (String × Stream)} (h : Keyed streams)
    (hsub : streams'.Sublist streams) : Keyed streams' where
  key q hq := h.key q (hsub.mem hq)
  plain q hq := h.plain q (hsub.mem hq)
  distinct := h.distinct.sublist (hsub.map _)

/-- The lines of a stream are nothing to its key. -/
theorem slot_values (h : Keyed (slot front labels rest values)) (values' : List (Int × String)) :
    Keyed (slot front labels rest values') where
  key q hq := by
    rw [slot, List.mem_append, List.mem_cons] at hq
    rcases hq with hfront | rfl | hrest
    · exact h.key q (by simp [slot, hfront])
    · rfl
    · exact h.key q (by simp [slot, hrest])
  plain q hq := by
    rw [slot, List.mem_append, List.mem_cons] at hq
    rcases hq with hfront | rfl | hrest
    · exact h.plain q (by simp [slot, hfront])
    · exact h.plain (labels.text, ⟨labels, values⟩) (by simp [slot])
    · exact h.plain q (by simp [slot, hrest])
  distinct := by
    have hdistinct := h.distinct
    simp only [slot, List.map_append, List.map_cons] at hdistinct ⊢
    exact hdistinct

/-- Beside the stream of some labels nothing waits under them. -/
theorem under_beside (h : Keyed (slot front labels rest values)) :
    under labels (waiting front) = [] ∧ under labels (waiting rest) = [] := by
  have hdistinct := h.distinct
  rw [slot, List.map_append, List.map_cons, List.nodup_append, List.nodup_cons] at hdistinct
  obtain ⟨-, ⟨hrest, -⟩, hfront⟩ := hdistinct
  have hnone (streams : List (String × Stream)) (hsub : ∀ q ∈ streams, q ∈ slot front labels rest
      values) (hkey : labels.text ∉ streams.map Prod.fst) : under labels (waiting streams) = [] := by
    rw [under, List.filter_eq_nil_iff]
    intro e he
    obtain ⟨s, hs, he⟩ := List.mem_flatMap.1 he
    obtain ⟨q, hq, rfl⟩ := List.mem_map.1 hs
    obtain ⟨v, -, rfl⟩ := List.mem_map.1 he
    intro heq
    have hlabels : q.2.labels = labels := of_decide_eq_true heq
    apply hkey
    rw [List.mem_map]
    exact ⟨q, hq, by rw [h.key q (hsub q hq), hlabels]⟩
  constructor
  · apply hnone
    · intro q hq
      simp [slot, hq]
    · intro hmem
      exact hfront _ hmem _ (by simp) rfl
  · apply hnone
    · intro q hq
      simp [slot, hq]
    · exact hrest

/-- What waits under the labels of a stream are the lines of that stream, and what waits
under others does not depend on it. -/
theorem under_slot (h : Keyed (slot front labels rest values)) (labels' : LabelSet) :
    under labels' (waiting (slot front labels rest values)) =
      if labels' = labels then entries [⟨labels, values⟩]
      else under labels' (waiting (front ++ rest)) := by
  rw [waiting_slot, under_append, under_append, under_entries_singleton]
  by_cases heq : labels' = labels
  · subst heq
    rw [if_pos rfl, if_pos rfl, h.under_beside.1, h.under_beside.2]
    simp
  · rw [if_neg heq, if_neg heq, waiting_append, under_append, List.nil_append]

/-- Every label set has one stream at most. -/
theorem nodup_labels {streams : List (String × Stream)} (h : Keyed streams) :
    (streams.map fun q => q.2.labels).Nodup := by
  have htexts : (streams.map fun q => q.2.labels).map LabelSet.text = streams.map Prod.fst := by
    rw [List.map_map]
    apply List.map_congr_left
    intro q hq
    exact (h.key q hq).symm
  have hdistinct := h.distinct
  rw [← htexts] at hdistinct
  exact List.Pairwise.of_map LabelSet.text
    (fun _ _ hne heq => hne (congrArg LabelSet.text heq)) hdistinct

end Keyed

/-! ## Filing a line -/

/-- Filing a line changes the stream with the key, which is a new one if there is none. -/
theorem appendLine_cases (limit : Nat) (key : String) (labels : LabelSet) (value : Int × String)
    (streams : List (String × Stream)) :
    ∃ front s rest, (∀ q ∈ front, q.1 ≠ key) ∧
      (streams = front ++ (key, s) :: rest ∨ streams = front ∧ rest = [] ∧ s = ⟨labels, []⟩) ∧
      appendLine limit key labels value streams =
        if limit ≤ s.values.length + 1 then
          (some ⟨s.labels, s.values ++ [value]⟩, front ++ (key, ⟨s.labels, []⟩) :: rest)
        else (none, front ++ (key, ⟨s.labels, s.values ++ [value]⟩) :: rest) := by
  induction streams with
  | nil =>
    refine ⟨[], ⟨labels, []⟩, [], by simp, .inr ⟨rfl, rfl, rfl⟩, ?_⟩
    simp [appendLine]
  | cons q streams ih =>
    obtain ⟨k, s⟩ := q
    by_cases hk : k = key
    · subst hk
      refine ⟨[], s, streams, by simp, .inl rfl, ?_⟩
      simp [appendLine]
    · obtain ⟨front, s', rest, hfront, hstreams, heq⟩ := ih
      refine ⟨(k, s) :: front, s', rest, ?_, ?_, ?_⟩
      · intro q hq
        rcases List.mem_cons.1 hq with rfl | hq
        · exact hk
        · exact hfront q hq
      · rcases hstreams with rfl | ⟨rfl, hrest, hs⟩
        · exact .inl rfl
        · exact .inr ⟨rfl, hrest, hs⟩
      · rw [appendLine, if_neg hk, heq]
        by_cases hfull : limit ≤ s'.values.length + 1
        · rw [if_pos hfull, if_pos hfull]
          rfl
        · rw [if_neg hfull, if_neg hfull]
          rfl

/-- Filing a line changes the stream of its labels alone, which has been there or has no
lines: the line goes to its end, and the stream is taken if it is full. -/
theorem Keyed.appendLine_eq {streams : List (String × Stream)} (h : Keyed streams)
    (hlabels : labels.Plain) (limit : Nat) (value : Int × String) :
    ∃ front rest values, Keyed (slot front labels rest values) ∧
      waiting (slot front labels rest values) = waiting streams ∧
      (∀ q ∈ slot front labels rest values, q ∈ streams ∨ q.2.values = []) ∧
      appendLine limit labels.text labels value streams =
        if limit ≤ values.length + 1 then
          (some ⟨labels, values ++ [value]⟩, slot front labels rest [])
        else (none, slot front labels rest (values ++ [value])) := by
  obtain ⟨front, s, rest, hfront, hstreams, heq⟩ :=
    appendLine_cases limit labels.text labels value streams
  rcases hstreams with rfl | ⟨rfl, rfl, rfl⟩
  · have hmem : (labels.text, s) ∈ front ++ (labels.text, s) :: rest := by simp
    obtain rfl : s.labels = labels :=
      LabelSet.eq_of_text_eq (h.plain _ hmem) hlabels (h.key _ hmem).symm
    exact ⟨front, rest, s.values, h, rfl, fun q hq => .inl hq, heq⟩
  · refine ⟨streams, [], [], ⟨?_, ?_, ?_⟩, ?_, ?_, heq⟩
    · intro q hq
      rw [slot, List.mem_append, List.mem_singleton] at hq
      rcases hq with hq | rfl
      · exact h.key q hq
      · rfl
    · intro q hq
      rw [slot, List.mem_append, List.mem_singleton] at hq
      rcases hq with hq | rfl
      · exact h.plain q hq
      · exact hlabels
    · rw [slot, List.map_append, List.map_singleton, List.nodup_append]
      refine ⟨h.distinct, by simp, ?_⟩
      intro k hk k' hk'
      obtain ⟨q, hq, rfl⟩ := List.mem_map.1 hk
      rw [List.mem_singleton.1 hk']
      exact hfront q hq
    · rw [waiting_slot]
      simp [entries, waiting]
    · intro q hq
      rw [slot, List.mem_append, List.mem_singleton] at hq
      rcases hq with hq | rfl
      · exact .inl hq
      · exact .inr rfl

/-! ## Taking lines -/

/-- Taking lines empties the stream with the key. -/
theorem takeLines_eq_some {key : String} {streams streams' : List (String × Stream)}
    {batch : Stream} (h : takeLines key streams = some (batch, streams')) :
    batch.values ≠ [] ∧ ∃ front rest, streams = front ++ (key, batch) :: rest ∧
      streams' = front ++ (key, ⟨batch.labels, []⟩) :: rest := by
  induction streams generalizing streams' with
  | nil => cases h
  | cons q streams ih =>
    obtain ⟨k, s⟩ := q
    rw [takeLines] at h
    split at h
    · rename_i hk
      subst hk
      split at h
      · cases h
      · rename_i hvalues
        cases h
        refine ⟨by simpa using hvalues, [], streams, rfl, rfl⟩
    · split at h
      · cases h
      · rename_i b rest' hrest
        cases h
        obtain ⟨hvalues, front, rest, rfl, rfl⟩ := ih hrest
        exact ⟨hvalues, (k, s) :: front, rest, rfl, rfl⟩

/-- Taking lines empties the stream of some labels. -/
theorem Keyed.takeLines_eq {key : String} {streams streams' : List (String × Stream)}
    {batch : Stream} (h : Keyed streams) (htake : takeLines key streams = some (batch, streams')) :
    batch.values ≠ [] ∧ ∃ front rest, streams = slot front batch.labels rest batch.values ∧
      streams' = slot front batch.labels rest [] := by
  obtain ⟨hvalues, front, rest, rfl, rfl⟩ := takeLines_eq_some htake
  obtain rfl : key = batch.labels.text := h.key (key, batch) (by simp)
  exact ⟨hvalues, front, rest, rfl, rfl⟩

/-! ## Removing empty streams -/

/-- Removing an empty stream removes no line. -/
theorem waiting_dropEmpty (key : String) (streams : List (String × Stream)) :
    waiting (dropEmpty key streams) = waiting streams := by
  induction streams with
  | nil => rfl
  | cons q streams ih =>
    have hcons (streams : List (String × Stream)) :
        waiting (q :: streams) = entries [q.2] ++ waiting streams := by
      simp [waiting, entries]
    rw [dropEmpty, List.filter_cons, hcons]
    split
    · rw [hcons]
      exact congrArg _ ih
    · rename_i hempty
      simp only [Bool.not_eq_true', Bool.not_eq_false, Bool.and_eq_true,
        List.isEmpty_iff] at hempty
      have hnone : entries [q.2] = [] := by simp [entries, hempty.2]
      rw [hnone]
      exact ih

end SapMonitor.LogStore
