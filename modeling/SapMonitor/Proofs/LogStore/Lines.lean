import SapMonitor.Proofs.LogStore.Acts
import SapMonitor.Proofs.LogStore.Filing

/-!
# Lines in the traffic of a client

Filing a line puts it behind the lines of its labels, and a stream that is taken has the
lines of its labels that came first.  So under every label set the batches that were taken,
and then the lines that wait, are in the order in which the lines were filed.

Main results:

- `Filed.keep`, `Filed.fill`, `Filed.take` and `Filed.drop`: what the operations on the
  streams keep.
- `Traffic.Filed.step`: what an act keeps.
- `find?_entry`: which labels a line is filed under.
-/

namespace SapMonitor.LogStore

open Traffic (Happens)

variable {s : ClientSettings}

/-! ## Lines and streams -/

/-- A line with plain labels is filed under plain labels. -/
theorem plain_named {line : LogLine} (h : line.labels.Plain) (name : String) :
    (line.named name).labels.Plain := by
  unfold LogLine.named LabelSet.insertNew
  split
  · exact h
  · intro p hp
    rcases mem_putLabel hp with hjob | hold
    · rw [hjob]
      decide
    · exact h p hold

/-- The labels that a line is filed under are its own, and its job if it names none. -/
theorem find?_entry (line : LogLine) (name label : String) :
    (line.entry name).1.find? label =
      if label = "job" then some ((line.labels.find? "job").getD name)
      else line.labels.find? label := by
  simp only [LogLine.entry, LogLine.named, LabelSet.insertNew]
  cases hjob : line.labels.find? "job" with
  | some job =>
    by_cases hlabel : label = "job"
    · subst hlabel
      simp [hjob]
    · simp [hlabel]
  | none =>
    by_cases hlabel : label = "job"
    · subst hlabel
      simp [LabelSet.find?_insert_self]
    · simp [hlabel, LabelSet.find?_insert_of_ne]

/-- The lines that were filed are those that were taken and those that wait, and no stream
is full. -/
structure Filed (s : ClientSettings) (streams : List (String × Stream)) (filed : List LogLine)
    (taken : List Stream) : Prop where
  keyed : Keyed streams
  fewer : ∀ q ∈ streams, q.2.values.length < max 1 s.batch
  order : ∀ labels, under labels (filed.map fun line => line.entry s.name) =
    under labels (entries taken ++ waiting streams)

namespace Filed

variable {streams : List (String × Stream)} {filed : List LogLine} {taken : List Stream}

/-- Filing a line puts it to the end of the stream of its labels, and takes the stream if
that has as many lines as a batch. -/
theorem enqueue (h : Filed s streams filed taken) {line : LogLine} (hline : line.labels.Plain) :
    ∃ front rest values, Keyed (slot front (line.named s.name).labels rest values) ∧
      waiting (slot front (line.named s.name).labels rest values) = waiting streams ∧
      (∀ q ∈ slot front (line.named s.name).labels rest values,
        q.2.values.length < max 1 s.batch) ∧
      LogStore.enqueue s line ⟨streams⟩ =
        if max 1 s.batch = values.length + 1 then
          (some ⟨(line.named s.name).labels,
              values ++ [(line.moment.epochNanos, line.text)]⟩,
            ⟨slot front (line.named s.name).labels rest []⟩)
        else (none, ⟨slot front (line.named s.name).labels rest
          (values ++ [(line.moment.epochNanos, line.text)])⟩) := by
  obtain ⟨front, rest, values, hkeyed, hwaiting, hslot, heq⟩ :=
    h.keyed.appendLine_eq (plain_named hline s.name) s.batch
      (line.moment.epochNanos, line.text)
  have hfewer : ∀ q ∈ slot front (line.named s.name).labels rest values,
      q.2.values.length < max 1 s.batch := by
    intro q hq
    rcases hslot q hq with hold | hnone
    · exact h.fewer q hold
    · rw [hnone, List.length_nil]
      omega
  have hvalues : values.length < max 1 s.batch :=
    hfewer ((line.named s.name).labels.text, ⟨(line.named s.name).labels, values⟩)
      (by simp [slot])
  refine ⟨front, rest, values, hkeyed, hwaiting, hfewer, ?_⟩
  have hlabels : (line.named s.name).moment = line.moment ∧
      (line.named s.name).text = line.text := ⟨rfl, rfl⟩
  rw [LogStore.enqueue, Pending.append, hlabels.1, hlabels.2, heq]
  by_cases hfull : s.batch ≤ values.length + 1
  · rw [if_pos hfull, if_pos (by omega)]
  · rw [if_neg hfull, if_neg (by omega)]

/-- A line under the labels that it is filed under, and under no others. -/
theorem under_entry (labels : LabelSet) (line : LogLine) (name : String) :
    under labels [line.entry name] =
      if labels = (line.named name).labels then
        [((line.named name).labels, (line.moment.epochNanos, line.text))]
      else [] := by
  by_cases h : labels = (line.named name).labels
  · rw [if_pos h]
    simp [under, LogLine.entry, h]
  · rw [if_neg h]
    simpa [under, LogLine.entry] using Ne.symm h

/-- A line that does not fill its stream waits at its end. -/
theorem keep (h : Filed s streams filed taken) {line : LogLine} (hline : line.labels.Plain)
    {pending : Pending} (he : LogStore.enqueue s line ⟨streams⟩ = (none, pending)) :
    Filed s pending.streams (filed ++ [line]) taken := by
  obtain ⟨front, rest, values, hkeyed, hwaiting, hfewer, heq⟩ := h.enqueue hline
  rw [heq] at he
  split at he
  · cases he
  · rename_i hopen
    cases he
    have hvalues : values.length < max 1 s.batch :=
      hfewer ((line.named s.name).labels.text, ⟨(line.named s.name).labels, values⟩)
        (by simp [slot])
    refine ⟨hkeyed.slot_values _, ?_, ?_⟩
    · intro q hq
      rcases mem_slot hq with hold | hnew
      · exact hfewer q hold
      · rw [hnew, List.length_append, List.length_singleton]
        omega
    · intro labels
      rw [List.map_append, under_append, h.order, ← hwaiting, List.map_singleton, under_append,
        under_append, hkeyed.under_slot, (hkeyed.slot_values _).under_slot, under_entry]
      by_cases hlabels : labels = (line.named s.name).labels
      · rw [if_pos hlabels, if_pos hlabels, if_pos hlabels, entries_concat, List.append_assoc]
      · rw [if_neg hlabels, if_neg hlabels, if_neg hlabels, List.append_nil]

/-- A line that fills its stream is taken with it, at its end. -/
theorem fill (h : Filed s streams filed taken) {line : LogLine} (hline : line.labels.Plain)
    {batch : Stream} {pending : Pending}
    (he : LogStore.enqueue s line ⟨streams⟩ = (some batch, pending)) :
    Filed s pending.streams (filed ++ [line]) (taken ++ [batch]) ∧
      batch.values.length = max 1 s.batch := by
  obtain ⟨front, rest, values, hkeyed, hwaiting, hfewer, heq⟩ := h.enqueue hline
  rw [heq] at he
  split at he
  · rename_i hfull
    cases he
    refine ⟨⟨hkeyed.slot_values _, ?_, ?_⟩, ?_⟩
    · intro q hq
      rcases mem_slot hq with hold | hnew
      · exact hfewer q hold
      · rw [hnew, List.length_nil]
        omega
    · intro labels
      rw [List.map_append, under_append, h.order, ← hwaiting, List.map_singleton, under_append,
        entries_append, under_append, under_append, hkeyed.under_slot,
        (hkeyed.slot_values _).under_slot, under_entry, under_entries_singleton]
      by_cases hlabels : labels = (line.named s.name).labels
      · rw [if_pos hlabels, if_pos hlabels, if_pos hlabels, if_pos hlabels, entries_concat,
          entries_empty, List.append_nil, List.append_assoc]
      · rw [if_neg hlabels, if_neg hlabels, if_neg hlabels, if_neg hlabels, List.append_nil,
          List.append_nil]
    · rw [List.length_append, List.length_singleton]
      exact hfull.symm
  · cases he

/-- The lines of a stream that is taken were the first to wait under their labels. -/
theorem take (h : Filed s streams filed taken) {key : String} {batch : Stream}
    {streams' : List (String × Stream)} (ht : takeLines key streams = some (batch, streams')) :
    Filed s streams' filed (taken ++ [batch]) := by
  obtain ⟨-, front, rest, rfl, rfl⟩ := h.keyed.takeLines_eq ht
  refine ⟨h.keyed.slot_values _, ?_, ?_⟩
  · intro q hq
    rcases mem_slot hq with hold | hnew
    · exact h.fewer q hold
    · rw [hnew, List.length_nil]
      omega
  · intro labels
    rw [h.order, under_append, under_append, entries_append, under_append, h.keyed.under_slot,
      (h.keyed.slot_values _).under_slot, under_entries_singleton]
    by_cases hlabels : labels = batch.labels
    · rw [if_pos hlabels, if_pos hlabels, if_pos hlabels, entries_empty, List.append_nil]
    · rw [if_neg hlabels, if_neg hlabels, if_neg hlabels, List.append_nil]

/-- Removing an empty stream changes nothing. -/
theorem drop (h : Filed s streams filed taken) (key : String) :
    Filed s (dropEmpty key streams) filed taken where
  keyed := h.keyed.sublist List.filter_sublist
  fewer q hq := h.fewer q (List.filter_sublist.mem hq)
  order labels := by rw [waiting_dropEmpty, h.order]

end Filed

/-- The lines and streams of the traffic are in order, and lines that are on their way have
plain labels. -/
structure Traffic.Filed (s : ClientSettings) (t : Traffic) : Prop where
  filed : LogStore.Filed s t.pending.streams t.filed t.taken
  plain : ∀ line, Call.sending line ∈ t.calls → line.labels.Plain

/-- A line that is sent has labels without a sign of equality in their names. -/
def Act.Plain : Act → Prop
  | .send line => line.labels.Plain
  | _ => True

instance (a : Act) : Decidable a.Plain := by
  cases a <;> unfold Act.Plain <;> infer_instance

namespace Traffic

variable {t t' : Traffic}

/-- Replacing a call by one that sends no line leaves the lines that are sent. -/
theorem plain_put (h : ∀ line, Call.sending line ∈ t.calls → line.labels.Plain) {i : Nat}
    {c : Call} (hc : ∀ line, c ≠ .sending line) :
    ∀ line, Call.sending line ∈ t.calls.set i c → line.labels.Plain := by
  intro line hline
  rcases List.mem_or_eq_of_mem_set hline with hold | hnew
  · exact h line hold
  · exact absurd hnew.symm (hc line)

/-- An act keeps the lines and streams in order, if the line that is sent has plain labels. -/
theorem Filed.step {a : Act} (ha : a.Plain) (hstep : Happens s t a t') (h : t.Filed s) :
    t'.Filed s := by
  obtain ⟨hfiled, hplain⟩ := h
  have hsending {i : Nat} {line : LogLine} (hc : t.calls[i]? = some (.sending line)) :
      line.labels.Plain :=
    hplain line (List.mem_of_getElem? hc)
  cases hstep with
  | send line =>
    refine ⟨hfiled, ?_⟩
    intro line' hline'
    rcases List.mem_append.1 hline' with hold | hnew
    · exact hplain line' hold
    · cases List.mem_singleton.1 hnew
      exact ha
  | flush =>
    refine ⟨hfiled, ?_⟩
    intro line' hline'
    rcases List.mem_append.1 hline' with hold | hnew
    · exact hplain line' hold
    · cases List.mem_singleton.1 hnew
  | keep hc he => exact ⟨hfiled.keep (hsending hc) he, plain_put hplain (by simp)⟩
  | fill hc he => exact ⟨(hfiled.fill (hsending hc) he).1, plain_put hplain (by simp)⟩
  | collect hc ht => exact ⟨hfiled.take ht, plain_put hplain (by simp)⟩
  | turn hc => exact ⟨hfiled, plain_put hplain (by simp)⟩
  | prune key hc => exact ⟨hfiled.drop key, hplain⟩
  | push hc => exact ⟨hfiled, plain_put hplain (by simp)⟩
  | pushNothing hc hn => exact ⟨hfiled, plain_put hplain (by simp)⟩
  | pushAll hc hn => exact ⟨hfiled, plain_put hplain (by simp)⟩
  | answer outcome hc => exact ⟨hfiled, plain_put hplain (by simp)⟩
  | answerAll outcome hc => exact ⟨hfiled, plain_put hplain (by simp)⟩

end Traffic

end SapMonitor.LogStore
