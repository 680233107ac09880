import SapMonitor.Proofs.LogStore.Batches

/-!
# What becomes of log lines

However calls of a client come between each other, and whatever their pushes are answered, a
line that was filed is in one batch that was taken or waits in one stream, and the lines of
a label set stay in the order in which they were filed.  What was taken was pushed once, or
is still with the call that has taken it.

Main results:

- `Traffic.delivers`: what holds at every moment of the traffic.
-/

namespace SapMonitor.LogStore

namespace Traffic

variable {s : ClientSettings} {t : Traffic}

/-! ## At every moment -/

/-- What holds at every moment of the traffic. -/
structure Delivers (s : ClientSettings) (t : Traffic) : Prop where
  /-- A line that was filed is in a batch that was taken or waits in a stream, and is there
  once. -/
  parted : (t.filed.map fun line => line.entry s.name).Perm
    (entries t.taken ++ waiting t.pending.streams)
  /-- Under every label set the batches that were taken and then the lines that wait are in
  the order in which the lines were filed. -/
  ordered : ∀ labels, under labels (t.filed.map fun line => line.entry s.name) =
    under labels (entries t.taken ++ waiting t.pending.streams)
  /-- A line is filed under its own labels, with a job if it names none. -/
  labelled : ∀ line ∈ t.filed, ∀ label, (line.entry s.name).1.find? label =
    if label = "job" then some ((line.labels.find? "job").getD s.name)
    else line.labels.find? label
  /-- A label set has one stream at most. -/
  separate : (t.pending.streams.map fun q => q.2.labels).Nodup
  /-- A batch that was taken is in one push, or with the call that is to push it. -/
  shipped : t.taken.Perm (t.pushes.flatMap Prod.snd ++ t.calls.flatMap Call.held)
  /-- No stream is full. -/
  fewer : ∀ q ∈ t.pending.streams, q.2.values.length < max 1 s.batch
  /-- What is counted as waiting are the lines that were not taken. -/
  counted : t.pending.count + batchLines t.taken = t.filed.length
  /-- A send pushes one batch of full size or none; a flush pushes everything it has taken at
  once, or nothing, and returns how many lines that were. -/
  pushed : ∀ (i : Nat) (c : Call), t.calls[i]? = some c → c.HasPushed s (pushesOf t.pushes i)

/-- Whatever the calls of a client do and whatever their pushes are answered, no line is
lost, doubled or misfiled. -/
theorem delivers {acts : List Act} (hplain : ∀ a ∈ acts, a.Plain)
    (hrun : ({} : Traffic).run? s acts = some t) : t.Delivers s := by
  have hstart : ({} : Traffic).Filed s ∧ Shipped s [] [] [] := by
    refine ⟨⟨⟨.nil, by simp, fun _ => rfl⟩, by simp⟩, by simp, ?_, by simp, by simp⟩
    exact List.Perm.refl _
  have hend : t.Filed s ∧ Shipped s t.taken t.pushes t.calls := by
    refine run?_invariant (fun t => t.Filed s ∧ Shipped s t.taken t.pushes t.calls) ?_ hplain hrun
      hstart
    rintro t a t' ha hstep ⟨hfiled, hshipped⟩
    exact ⟨hfiled.step ha hstep, shipped_step hstep hfiled hshipped⟩
  obtain ⟨⟨hfiled, -⟩, hshipped⟩ := hend
  have hparted := perm_of_under hfiled.order
  refine ⟨hparted, hfiled.order, fun line _ => find?_entry line s.name, hfiled.keyed.nodup_labels,
    hshipped.once, hfiled.fewer, ?_, hshipped.pushed⟩
  have hlength := hparted.length_eq
  rw [List.length_map, List.length_append, length_entries, length_waiting] at hlength
  rw [hlength, Pending.count, Nat.add_comm]

/-! ### An example -/

/-- A client with batches of two lines. -/
def pairing : ClientSettings :=
  { address := "", name := "mon", tenant := "", wait := ⟨1⟩, batch := 2, timeout := ⟨1⟩,
    offset := 0 }

/-- A line without labels. -/
def bareLine (text : String) : LogLine :=
  { labels := .empty, moment := ⟨0, 0⟩, text := text }

/-- A line of another job. -/
def otherLine : LogLine :=
  { labels := LabelSet.empty.insert "job" "x", moment := ⟨0, 0⟩, text := "d" }

/-- The key of the lines without labels. -/
def bareKey : String :=
  "\x7bjob=\"mon\"\x7d"

/-- A flush between whose operations the stream that it has taken is filled again, removed by
the flush and pushed in vain. -/
def crossed : List Act :=
  [.send (bareLine "a"), .file 0, .flush, .send otherLine, .file 2, .collect 1 bareKey,
    .send (bareLine "b"), .file 3, .send (bareLine "c"), .file 4, .turn 1, .prune 1 bareKey,
    .push 4, .answer 4 (.error (.request "down")), .push 1, .answer 1 (.ok ())]

/-- What that comes to. -/
def crossedEnd : Traffic where
  pending := ⟨[("\x7bjob=\"x\"\x7d", ⟨otherLine.labels, [(0, "d")]⟩)]⟩
  calls := [.sent (.ok ()), .flushed (.ok 1), .sent (.ok ()), .sent (.ok ()),
    .sent (.error (.request "down"))]
  filed := [bareLine "a", otherLine, bareLine "b", bareLine "c"]
  taken := [⟨LabelSet.empty.insert "job" "mon", [(0, "a")]⟩,
    ⟨LabelSet.empty.insert "job" "mon", [(0, "b"), (0, "c")]⟩]
  pushes := [(4, [⟨LabelSet.empty.insert "job" "mon", [(0, "b"), (0, "c")]⟩]),
    (1, [⟨LabelSet.empty.insert "job" "mon", [(0, "a")]⟩])]

theorem delivers_crossed :
    (∀ a ∈ crossed, a.Plain) ∧ ({} : Traffic).run? pairing crossed = some crossedEnd ∧
      crossedEnd.Delivers pairing := by
  have hplain : ∀ a ∈ crossed, a.Plain := by decide
  have hrun : ({} : Traffic).run? pairing crossed = some crossedEnd := rfl
  exact ⟨hplain, hrun, delivers hplain hrun⟩

end Traffic

end SapMonitor.LogStore
