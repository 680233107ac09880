import SapMonitor.Proofs.Series.Recording

/-!
# Samples that fit

A sample fits a catalog if its metric has a descriptor that a series can be created for, and if
it carries as many label values as the descriptor has labels.  Then a buffer has one reason only
to reject it: it is a counter below zero.

Main results:

- `Descriptor.fault?_eq_none_iff`: which descriptors have no fault.
- `Catalog.Creatable.insert`: descriptors without a fault can be added to a catalog.
- `Catalog.accepts_iff_of_fits`: a sample that fits is accepted unless it is a counter below zero.
- `Buffer.Sound.rejections_of_fits`: the rejections among samples that fit.
-/

namespace SapMonitor.Series

/-! ## Descriptors without a fault -/

/-- A series can be created for the descriptor under the name. -/
structure Descriptor.Creatable (d : Descriptor) (fullName : String) : Prop where
  help : d.help ≠ ""
  name : isMetricName fullName = true
  labels : ∀ l ∈ d.labels, isLabelName l = true
  distinct : d.labels.Nodup

theorem labelFault?_eq_none_iff {seen labels : List String} :
    labelFault? seen labels = none ↔
      (∀ l ∈ labels, isLabelName l = true) ∧ labels.Nodup ∧ ∀ l ∈ labels, l ∉ seen := by
  induction labels generalizing seen with
  | nil => simp [labelFault?]
  | cons l labels ih =>
    by_cases hname : isLabelName l = true
    · by_cases hseen : l ∈ seen
      · simp [labelFault?, hname, hseen]
      · -- a label that is new among those seen must not come again
        simp only [labelFault?, hname, hseen, ih, Bool.not_true, Bool.false_eq_true, if_false,
          List.contains_eq_mem, decide_false, List.mem_cons, forall_eq_or_imp, true_and,
          List.nodup_cons, not_or, not_false_eq_true]
        constructor
        · rintro ⟨hnames, hnodup, hnew⟩
          exact ⟨hnames, ⟨fun hl => (hnew l hl).1 rfl, hnodup⟩, fun k hk => (hnew k hk).2⟩
        · rintro ⟨hnames, ⟨hl, hnodup⟩, hnew⟩
          exact ⟨hnames, hnodup, fun k hk => ⟨fun he => hl (he ▸ hk), hnew k hk⟩⟩
    · simp [labelFault?, hname]

/-- A descriptor without a fault is one that a series can be created for. -/
theorem Descriptor.fault?_eq_none_iff {d : Descriptor} {fullName : String} :
    d.fault? fullName = none ↔ d.Creatable fullName := by
  have hlabels : labelFault? [] d.labels = none ↔
      (∀ l ∈ d.labels, isLabelName l = true) ∧ d.labels.Nodup := by
    simp [labelFault?_eq_none_iff]
  unfold fault?
  constructor
  · intro h
    split at h
    · cases h
    · rename_i hhelp
      split at h
      · cases h
      · rename_i hname
        obtain ⟨hnames, hnodup⟩ := hlabels.1 h
        exact ⟨by simpa using hhelp, by simpa using hname, hnames, hnodup⟩
  · rintro ⟨hhelp, hname, hnames, hnodup⟩
    rw [if_neg (by simpa using hhelp), if_neg (by simp [hname])]
    exact hlabels.2 ⟨hnames, hnodup⟩

/-! ## Catalogs without a fault -/

/-- Whether the text can go on the name of a metric. -/
def isNamePart (s : String) : Bool :=
  s.toList.all fun c => isMetricStart c || c.isDigit

/-- A name of a metric can be gone on. -/
theorem isMetricName_append {a b : String} (ha : isMetricName a = true)
    (hb : isNamePart b = true) : isMetricName (a ++ b) = true := by
  unfold isMetricName at ha ⊢
  rw [String.toList_append]
  cases hchars : a.toList with
  | nil =>
    rw [hchars] at ha
    cases ha
  | cons c cs =>
    rw [hchars, isName, Bool.and_eq_true] at ha
    rw [List.cons_append, isName, List.all_append, Bool.and_eq_true, Bool.and_eq_true]
    exact ⟨ha.1, ha.2, hb⟩

namespace Catalog

/-- Names that can go on the namespace and the subsystem are names of series. -/
theorem isMetricName_seriesName {c : Catalog} (hsubsystem : isNamePart c.subsystem = true)
    {name : String} (hne : name ≠ "") (hname : isNamePart name = true) :
    isMetricName (c.seriesName name) = true := by
  have hroot : isMetricName (rootNamespace ++ "_") = true := by decide
  have hgap : isNamePart "_" = true := by decide
  have hempty : name.isEmpty = false := by simpa using hne
  simp only [seriesName, fullName, hempty, Bool.false_eq_true, if_false]
  split
  · exact isMetricName_append hroot hname
  · exact isMetricName_append
      (isMetricName_append (isMetricName_append hroot hsubsystem) hgap) hname

/-- A series can be created for every descriptor of the catalog. -/
structure Creatable (c : Catalog) : Prop where
  subsystem : isNamePart c.subsystem = true
  entries : ∀ entry ∈ c.descriptors, entry.2.Creatable (c.seriesName entry.1)

/-- Whether a name and a help text can describe a metric. -/
def isDescription (name help : String) : Bool :=
  name ≠ "" && isNamePart name && help ≠ ""

theorem creatable_empty {subsystem : String} (h : isNamePart subsystem = true) :
    (empty subsystem).Creatable where
  subsystem := h
  entries _ hentry := nomatch hentry

/-- A descriptor with a help text, and with labels that are names and differ, can be added. -/
theorem Creatable.insert {c : Catalog} (h : c.Creatable) {name help : String}
    (hdescription : isDescription name help = true) {labels : List String}
    (hlabels : labelFault? [] labels = none) : (c.insert name help labels).Creatable where
  subsystem := h.subsystem
  entries entry hentry := by
    rcases List.mem_cons.1 hentry with rfl | hentry
    · simp only [isDescription, Bool.and_eq_true, decide_eq_true_eq] at hdescription
      obtain ⟨⟨hne, hname⟩, hhelp⟩ := hdescription
      obtain ⟨hnames, hdistinct, -⟩ := labelFault?_eq_none_iff.1 hlabels
      exact ⟨hhelp, isMetricName_seriesName h.subsystem hne hname, hnames, hdistinct⟩
    · exact h.entries entry hentry

/-- A descriptor that is found is one of the catalog. -/
theorem mem_of_find? {c : Catalog} {metric : String} {d : Descriptor}
    (h : c.find? metric = some d) : (metric, d) ∈ c.descriptors := by
  rw [find?, List.lookup_eq_some_iff] at h
  obtain ⟨before, after, hsplit, -⟩ := h
  rw [hsplit]
  exact List.mem_append_right _ List.mem_cons_self

/-! ## Samples that fit -/

/-- The metric of the sample is described, a series can be created for it, and there is a value
for each of its labels. -/
def Fits (c : Catalog) (s : Sample) : Prop :=
  ∃ d, c.find? s.metric = some d ∧ d.Creatable (c.seriesName s.metric) ∧
    s.labels.length = d.labels.length

/-- The labels that samples of a metric need values for. -/
def labels? (c : Catalog) (metric : String) : Option (List String) :=
  (c.find? metric).map Descriptor.labels

/-- In a catalog whose series can all be created, a sample fits if it has a value for each label
of its metric. -/
theorem Creatable.fits {c : Catalog} (h : c.Creatable) {s : Sample} {labels : List String}
    (hlabels : c.labels? s.metric = some labels) (hlength : s.labels.length = labels.length) :
    c.Fits s := by
  obtain ⟨d, hd, rfl⟩ := Option.map_eq_some_iff.1 hlabels
  exact ⟨d, hd, h.entries (s.metric, d) (mem_of_find? hd), hlength⟩

end Catalog

/-- Why a sample that fits is rejected: it is a counter below zero. -/
def Sample.negative? (s : Sample) : Option Rejection :=
  if s.kind = .counter ∧ s.value < 0 then some (.negative s.metric s.value) else none

/-- A sample that fits is accepted unless it is a counter below zero. -/
theorem Catalog.accepts_iff_of_fits {c : Catalog} {s : Sample} (h : c.Fits s) :
    c.accepts s = true ↔ s.negative? = none := by
  obtain ⟨d, hfind, hcreatable, hlength⟩ := h
  have hd := described?_eq_some_iff.2 ⟨hfind, Descriptor.fault?_eq_none_iff.2 hcreatable⟩
  rw [accepts, hd, Sample.negative?]
  by_cases hneg : s.kind = .counter ∧ s.value < 0
  · simp [hneg]
  · simpa [hneg, hlength] using not_and_or.1 hneg

namespace Buffer

/-- A sample that fits is rejected only as a counter below zero. -/
theorem Sound.rejection_of_fits {b : Buffer} (h : b.Sound) {s : Sample} (hs : b.catalog.Fits s) :
    (b.record s).2 = s.negative? := by
  by_cases hneg : s.kind = .counter ∧ s.value < 0
  · rw [record_rejected_counter b hneg.1 hneg.2, Sample.negative?, if_pos hneg]
  · have hnone : s.negative? = none := by rw [Sample.negative?, if_neg hneg]
    have hrejects := h.rejects s
    rw [(Catalog.accepts_iff_of_fits hs).2 hnone, Option.isNone_iff_eq_none] at hrejects
    rw [hrejects, hnone]

/-- Among samples that fit, the counters below zero are rejected, and no others. -/
theorem Sound.rejections_of_fits {b : Buffer} (h : b.Sound) {samples : List Sample}
    (hfits : ∀ s ∈ samples, b.catalog.Fits s) :
    (b.recordAll samples).2 = samples.filterMap Sample.negative? := by
  induction samples generalizing b with
  | nil => rfl
  | cons s samples ih =>
    obtain ⟨hsound, hcatalog⟩ := h.record s
    have hfirst := h.rejection_of_fits (hfits s List.mem_cons_self)
    have hrest := ih hsound (by
      intro t ht
      rw [hcatalog]
      exact hfits t (List.mem_cons_of_mem s ht))
    change (b.record s).2.toList ++ ((b.record s).1.recordAll samples).2 = _
    rw [hfirst, hrest]
    cases hneg : s.negative? with
    | none => simp [hneg]
    | some r => simp [hneg]

end Buffer

end SapMonitor.Series
