import SapMonitor.Proofs.LogStore.Lines
import SapMonitor.Proofs.Scrape.AlertReports

/-!
# Keys of the streams of alerts

The key of a stream tells its label set apart from all others, whatever the values are, as long
as no label name has a sign of equality in it.  The names that the lines of alerts have are of
that kind, with and without the job that a client adds.  So the lines of two alerts share a
stream only if the alerts agree in all that their labels show.

Main results:

- `plain_line`: the labels of the lines of alerts are plain.
- `labels_eq_of_named_eq`: a job that is added to lines does not make their labels equal.
- `lineLabels_eq_iff`: what the labels of the lines of alerts tell apart.
- `streamKeys_separate`: streams have one key exactly if their label sets are the same.
-/

namespace SapMonitor.Scrape.Alerts

open LogStore (LabelSet LogLine)
open Time (Moment)
open Landscape (Member)
open Remote (Alert)

/-! ## Labels of lines -/

/-- The labels of the line of an alert do not depend on its moment. -/
theorem labels_line (m : Member) (a : Alert) (moment : Moment) :
    (line m a moment).labels = lineLabels m a :=
  rfl

/-- The labels of the lines of alerts are plain. -/
theorem plain_line (m : Member) (a : Alert) (moment : Moment) : (line m a moment).labels.Plain := by
  have hnames : ∀ name ∈ ["Attribute", "Object", "SID", "State", "instance_hostname",
      "instance_name", "instance_number", "level"], '=' ∉ name.toList := by decide
  intro p hp
  apply hnames
  have hname := List.mem_map_of_mem (f := Prod.fst) hp
  rwa [labels_line, pairs_lineLabels_any] at hname

/-- The line of an alert names no job. -/
theorem find?_line_job (m : Member) (a : Alert) (moment : Moment) :
    (line m a moment).labels.find? "job" = none := by
  rw [labels_line, LabelSet.find?, pairs_lineLabels_any, List.lookup_eq_none_iff]
  simp

/-- A job that is added to lines without one does not make their labels equal. -/
theorem labels_eq_of_named_eq {l k : LogLine} {job : String} (hl : l.labels.find? "job" = none)
    (hk : k.labels.find? "job" = none) (h : (l.named job).labels = (k.named job).labels) :
    l.labels = k.labels := by
  rw [LabelSet.eq_iff_find?_eq]
  intro name
  by_cases hname : name = "job"
  · rw [hname, hl, hk]
  · -- A client adds no label but the job.
    have hfind (line : LogLine) : (line.named job).labels.find? name = line.labels.find? name := by
      have hentry := LogStore.find?_entry line job name
      rwa [if_neg hname] at hentry
    rw [← hfind l, ← hfind k, h]

/-- The labels of the lines of alerts tell the objects, the attributes and the states of the
alerts apart, and the instances by the labels that all their metrics share. -/
theorem lineLabels_eq_iff {m m' : Member} {a a' : Alert} :
    lineLabels m a = lineLabels m' a' ↔
      a.object = a'.object ∧ a.attributeName = a'.attributeName ∧ a.value = a'.value ∧
        m.sharedLabels = m'.sharedLabels := by
  constructor
  · intro h
    have hpairs := congrArg LabelSet.pairs h
    rw [pairs_lineLabels_any, pairs_lineLabels_any] at hpairs
    simp only [List.cons.injEq, Prod.mk.injEq, true_and] at hpairs
    obtain ⟨hattribute, hobject, hsystem, hstate, hhost, hname, hnumber, -⟩ := hpairs
    refine ⟨hobject, hattribute, hstate, ?_⟩
    rw [Member.sharedLabels, hname, hnumber, hsystem, hhost, Member.sharedLabels]
  · rintro ⟨hobject, hattribute, hstate, hshared⟩
    unfold lineLabels
    rw [hobject, hattribute, hstate, hshared]

/-! ## Keys -/

/-- Plain label sets have one key exactly if they are the same, that is, if they say the same of
every name.  The label sets of the lines of alerts are plain, and those in which a client has
named its job stay so.  Hence the lines of two alerts share a key exactly if the alerts agree in
object, attribute and state, and their instances in the labels that all their metrics share. -/
theorem streamKeys_separate :
    (∀ s t : LabelSet, s.Plain → t.Plain →
      (s.text = t.text ↔ s = t) ∧ (s = t ↔ ∀ name, s.find? name = t.find? name)) ∧
    (∀ (m : Member) (a : Alert) (moment : Moment), (line m a moment).labels.Plain) ∧
    (∀ (l : LogLine) (job : String), l.labels.Plain → (l.named job).labels.Plain) ∧
    ∀ (m m' : Member) (a a' : Alert) (moment moment' : Moment) (job : String),
      ((line m a moment).named job).labels.text = ((line m' a' moment').named job).labels.text ↔
        a.object = a'.object ∧ a.attributeName = a'.attributeName ∧ a.value = a'.value ∧
          m.sharedLabels = m'.sharedLabels := by
  refine ⟨?_, plain_line, ?_, ?_⟩
  · intro s t hs ht
    exact ⟨LabelSet.text_eq_iff hs ht, LabelSet.eq_iff_find?_eq⟩
  · intro l job hl
    exact LogStore.plain_named hl job
  · intro m m' a a' moment moment' job
    have hplain := LogStore.plain_named (plain_line m a moment) job
    have hplain' := LogStore.plain_named (plain_line m' a' moment') job
    rw [LabelSet.text_eq_iff hplain hplain', ← lineLabels_eq_iff, ← labels_line m a moment,
      ← labels_line m' a' moment']
    constructor
    · intro h
      exact labels_eq_of_named_eq (find?_line_job m a moment) (find?_line_job m' a' moment') h
    · intro h
      rw [LogLine.named, LogLine.named, h]

/-! ### An example -/

/-- A label whose value has another label's text in it, a character that is not shown and a line
break. -/
def forgedLabels : LabelSet :=
  .ofList [("a", "1\",b=\"2\u0301\n")]

/-- Two labels that have the same key but for its backslashes. -/
def writtenLabels : LabelSet :=
  .ofList [("b", "2\\u\x7b301\x7d\\n"), ("a", "1")]

theorem streamKeys_separate_forged :
    forgedLabels.Plain ∧ writtenLabels.Plain ∧ forgedLabels ≠ writtenLabels ∧
      forgedLabels.text ≠ writtenLabels.text := by
  have hforged : forgedLabels.Plain := by decide
  have hwritten : writtenLabels.Plain := by decide
  have hne : forgedLabels ≠ writtenLabels := by decide
  refine ⟨hforged, hwritten, hne, ?_⟩
  intro h
  exact hne ((streamKeys_separate.1 forgedLabels writtenLabels hforged hwritten).1.1 h)

/-- A sign of equality in a name lets two label sets have one key. -/
example : (LabelSet.ofList [("a=\"1\",b", "2")]).text =
    (LabelSet.ofList [("a", "1"), ("b", "2")]).text := by
  decide

end SapMonitor.Scrape.Alerts
