import SapMonitor.Proofs.Remote.Statistics
import SapMonitor.Proofs.Scrape.Accounts

/-!
# Reports of the lock server

Each field of a statistic is reported by the metric of the same name and by no other one: levels and
states as gauges, counts and times as counters.  A state that is no colour is not reported.

Main results:

- `number_eq_ok_iff_shows`: a number that is read is the one that the field shows.
- `exists_parts`: the samples of a statistic are made field by field.
- `statistic_reported`: every field under its own metric, and what becomes of the samples.
-/

namespace SapMonitor.Scrape.Locks

open Landscape (Member)
open Markup (Element)
open Remote (Flat LockStatistic RemoteError StateColor lockStatistic number numberText)
open Remote.LockStatistic (countNames fieldNames levelNames stateNames timeNames)
open Series (Buffer Sample)

/-! ## What a field is reported by -/

/-- The metric of a field: its name with other separators. -/
def metricOf (field : String) : String :=
  String.ofList (field.toList.map fun c => if c = '-' then '_' else c)

/-- The number that a field shows.  A missing field shows zero, and so does a blank one. -/
def ShowsNumber {α : Type} (zero : α) (read? : List Char → Option α) (e : Element) (field : String)
    (x : α) : Prop :=
  match e.child? field with
  | none => x = zero
  | some c =>
    (Text.trim c.text = "" ∧ x = zero) ∨ read? (Text.trim c.text).toList = some x

/-- The samples that a field of an element is reported by. -/
inductive FieldSamples (e : Element) (common : List String) : String → List Sample → Prop
  /-- A level is a gauge. -/
  | level {field : String} {n : Int} (hfield : field ∈ levelNames)
      (hshows : ShowsNumber 0 (Decimal.read? .int32) e field n) :
      FieldSamples e common field [.gauge (metricOf field) (Float.ofInt n) common]
  /-- A state is a gauge with the number of its colour. -/
  | colored {field : String} {c : StateColor} (hfield : field ∈ stateNames)
      (hcolor : e.textAt field = c.name) :
      FieldSamples e common field [.gauge (metricOf field) (Float.ofNat c.code) common]
  /-- A state that is no colour is not reported. -/
  | uncolored {field : String} (hfield : field ∈ stateNames)
      (hcolor : ∀ c : StateColor, e.textAt field ≠ c.name) : FieldSamples e common field []
  /-- A count is a counter. -/
  | count {field : String} {n : Int} (hfield : field ∈ countNames)
      (hshows : ShowsNumber 0 (Decimal.read? .int64) e field n) :
      FieldSamples e common field [.counter (metricOf field) (Float.ofInt n) common]
  /-- A time is a counter. -/
  | time {field : String} {x : Float} (hfield : field ∈ timeNames)
      (hshows : ShowsNumber 0 Decimal.readFloat? e field x) :
      FieldSamples e common field [.counter (metricOf field) x common]

/-! ## Fields and their samples -/

/-- A number that is read is the one that the field shows. -/
theorem number_eq_ok_iff_shows {α : Type} {zero x : α} {read? : List Char → Option α} {e : Element}
    {field : String} (hblank : read? [] = none) :
    number zero read? e field = .ok x ↔ ShowsNumber zero read? e field x := by
  have htrim : Text.trim "" = "" := by rfl
  rw [Remote.number_eq_ok_iff hblank, numberText, Element.textAt, ShowsNumber]
  cases e.child? field with
  | none => simp [htrim, hblank]
  | some c => rfl

theorem readFloat?_nil : Decimal.readFloat? [] = none := by
  simp [Decimal.readFloat?, Decimal.readUnsigned?]

/-- The sample of a state, if it is a colour. -/
def stateSamples (common : List String) (f : String × String) : List Sample :=
  ((StateColor.read? f.2).map fun c => .gauge (metricOf f.1) c.value common).toList

variable {e : Element} {common : List String}

theorem fieldSamples_state {field : String} (hfield : field ∈ stateNames) :
    FieldSamples e common field (stateSamples common (field, e.textAt field)) := by
  cases h : StateColor.read? (e.textAt field) with
  | none =>
    rw [stateSamples, h]
    exact .uncolored hfield (StateColor.read?_eq_none_iff.1 h)
  | some c =>
    rw [stateSamples, h]
    exact .colored hfield (StateColor.read?_eq_some_iff.1 h)

/-- Fields in order have their samples in order. -/
theorem forall₂_fields {β : Type} (fields : List (String × β)) (part : String × β → List Sample)
    (h : ∀ f ∈ fields, FieldSamples e common f.1 (part f)) :
    List.Forall₂ (FieldSamples e common) (fields.map Prod.fst) (fields.map part) := by
  rw [List.forall₂_map_left_iff, List.forall₂_map_right_iff, List.forall₂_same]
  exact h

/-- Readings that go with fields, metric by metric and value by value, are used like the fields. -/
theorem map_readings {α β : Type} (s : LockStatistic) (readings : List (Reading α))
    (fields : List (String × α))
    (hnames : readings.map Reading.metric = (fields.map Prod.fst).map metricOf)
    (hvalues : readings.map (fun r => r.value s) = fields.map Prod.snd) (g : String → α → β) :
    readings.map (fun r => g r.metric (r.value s)) = fields.map fun f => g (metricOf f.1) f.2 := by
  have hreadings : readings.map (fun r => g r.metric (r.value s)) =
      List.zipWith g (readings.map Reading.metric) (readings.map fun r => r.value s) := by
    rw [List.zipWith_map, List.zipWith_self]
  rw [hreadings, hnames, hvalues, List.map_map, List.zipWith_map, List.zipWith_self]
  rfl

/-- The samples of a statistic are made field by field. -/
theorem samples_eq (s : LockStatistic) (common : List String) :
    samples s common =
      s.levelFields.flatMap (fun f => [.gauge (metricOf f.1) (Float.ofInt f.2) common]) ++
        s.stateFields.flatMap (stateSamples common) ++
        (s.countFields.flatMap (fun f => [.counter (metricOf f.1) (Float.ofInt f.2) common]) ++
          s.timeFields.flatMap (fun f => [.counter (metricOf f.1) f.2 common])) := by
  have hlevels := map_readings s levels s.levelFields
    (by rw [s.map_fst_levelFields]; decide) rfl
    fun name n => Sample.gauge name (Float.ofInt n) common
  have hstates := map_readings s states s.stateFields
    (by rw [s.map_fst_stateFields]; decide) rfl
    fun name state => (StateColor.read? state).map fun c => Sample.gauge name c.value common
  have htotals := map_readings s totals
    (s.countFields.map (fun f => (f.1, Float.ofInt f.2)) ++ s.timeFields)
    (by
      rw [List.map_append, List.map_map, s.map_fst_timeFields]
      exact (by decide : totals.map Reading.metric = (countNames ++ timeNames).map metricOf)) rfl
    fun name x => Sample.counter name x common
  have hcolored : states.filterMap (stateSample? s common) =
      s.stateFields.flatMap (stateSamples common) := by
    rw [List.filterMap_eq_flatMap_toList]
    exact congrArg (fun parts => (parts.map Option.toList).flatten) hstates
  rw [samples, hlevels, hcolored, htotals, List.map_append, List.map_map]
  simp only [← List.map_eq_flatMap]
  rfl

/-- A field is reported under its own metric, at most once. -/
theorem FieldSamples.eq_nil_or {field : String} {part : List Sample}
    (h : FieldSamples e common field part) :
    part = [] ∨ ∃ x, part = [x] ∧ x.metric = metricOf field := by
  cases h with
  | uncolored _ _ => exact .inl rfl
  | level _ _ => exact .inr ⟨_, rfl, rfl⟩
  | colored _ _ => exact .inr ⟨_, rfl, rfl⟩
  | count _ _ => exact .inr ⟨_, rfl, rfl⟩
  | time _ _ => exact .inr ⟨_, rfl, rfl⟩

theorem metrics_sublist {fields : List String} {parts : List (List Sample)}
    (h : List.Forall₂ (FieldSamples e common) fields parts) :
    (parts.flatten.map Sample.metric).Sublist (fields.map metricOf) := by
  induction h with
  | nil => exact List.Sublist.refl _
  | cons hfield hrest ih =>
    rw [List.flatten_cons, List.map_append, List.map_cons]
    rcases hfield.eq_nil_or with rfl | ⟨x, rfl, hmetric⟩
    · exact ih.cons _
    · rw [List.map_singleton, hmetric]
      exact ih.cons_cons _

/-- Every sample reports one of the fields. -/
theorem exists_field_of_mem {fields : List String} {parts : List (List Sample)}
    (h : List.Forall₂ (FieldSamples e common) fields parts) {x : Sample} (hx : x ∈ parts.flatten) :
    ∃ field ∈ fields, x.metric = metricOf field ∧ FieldSamples e common field [x] := by
  induction h with
  | nil => cases hx
  | @cons field part fields parts hfield hrest ih =>
    rw [List.flatten_cons, List.mem_append] at hx
    rcases hx with hx | hx
    · rcases hfield.eq_nil_or with rfl | ⟨y, rfl, hmetric⟩
      · cases hx
      · obtain rfl := List.mem_singleton.1 hx
        exact ⟨field, List.mem_cons_self, hmetric, hfield⟩
    · obtain ⟨other, hother, hreports⟩ := ih hx
      exact ⟨other, List.mem_cons_of_mem field hother, hreports⟩

/-- No two fields have the same metric. -/
theorem nodup_metrics : (fieldNames.map metricOf).Nodup := by
  decide

/-! ## The whole statistic -/

/-- The samples of a statistic that is decoded are made field by field. -/
theorem exists_parts {s : LockStatistic} (hshows : Remote.ShowsStatistic e s)
    (common : List String) :
    ∃ parts, List.Forall₂ (FieldSamples e common) fieldNames parts ∧
      samples s common = parts.flatten := by
  have hlevels := forall₂_fields s.levelFields
    (fun f => [.gauge (metricOf f.1) (Float.ofInt f.2) common]) fun f hf =>
      .level (s.map_fst_levelFields ▸ List.mem_map_of_mem hf)
        ((number_eq_ok_iff_shows (by decide)).1 (hshows.levels f hf))
  have hstates := forall₂_fields s.stateFields (stateSamples common) fun f hf => by
    have hstate : FieldSamples e common f.1 (stateSamples common (f.1, e.textAt f.1)) :=
      fieldSamples_state (s.map_fst_stateFields ▸ List.mem_map_of_mem hf)
    rwa [hshows.states f hf] at hstate
  have hcounts := forall₂_fields s.countFields
    (fun f => [.counter (metricOf f.1) (Float.ofInt f.2) common]) fun f hf =>
      .count (s.map_fst_countFields ▸ List.mem_map_of_mem hf)
        ((number_eq_ok_iff_shows (by decide)).1 (hshows.counts f hf))
  have htimes := forall₂_fields s.timeFields
    (fun f => [.counter (metricOf f.1) f.2 common]) fun f hf =>
      .time (s.map_fst_timeFields ▸ List.mem_map_of_mem hf)
        ((number_eq_ok_iff_shows readFloat?_nil).1 (hshows.times f hf))
  refine ⟨_, List.rel_append (List.rel_append (List.rel_append hlevels hstates) hcounts) htimes, ?_⟩
  rw [samples_eq]
  simp only [List.flatten_append, List.flatMap_def, List.append_assoc]

/-- Samples that report the fields of an element for a member. -/
structure ReportsFields (e : Element) (m : Member) (xs : List Sample) : Prop where
  /-- They are made field by field. -/
  parts : ∃ parts, List.Forall₂ (FieldSamples e m.sharedLabels) fieldNames parts ∧
    xs = parts.flatten
  /-- A sample under the metric of a field reports that field. -/
  own : ∀ x ∈ xs, ∀ field ∈ fieldNames, x.metric = metricOf field →
    FieldSamples e m.sharedLabels field [x]
  /-- No metric is reported twice. -/
  once : (xs.map Sample.metric).Nodup
  /-- A buffer drops the counters below zero and nothing else. -/
  dropped : ∀ b : Buffer, b.Sound → b.catalog = catalog →
    (b.recordAll xs).2 = xs.filterMap Sample.negative?

/-- Every field of a statistic is reported by the metric of its name, and by no other one. -/
theorem statistic_reported {e : Element} (hflat : Flat e.children) {s : LockStatistic}
    (h : lockStatistic e = .ok s) (m : Member) :
    ReportsFields e m (samples s m.sharedLabels) := by
  have hshows := Remote.lockStatistic_eq_ok_iff.1 h
  rw [Remote.statisticElement_of_flat hflat] at hshows
  obtain ⟨parts, hparts, hsamples⟩ := exists_parts hshows m.sharedLabels
  refine ⟨⟨parts, hparts, hsamples⟩, ?_, ?_, ?_⟩
  · intro x hx field hfield hmetric
    rw [hsamples] at hx
    obtain ⟨other, hother, hotherMetric, hreports⟩ := exists_field_of_mem hparts hx
    have hsame : other = field := List.inj_on_of_nodup_map nodup_metrics hother hfield
      (hotherMetric.symm.trans hmetric)
    rwa [hsame] at hreports
  · rw [hsamples]
    exact nodup_metrics.sublist (metrics_sublist hparts)
  · rintro b hsound hcatalog
    exact hsound.rejections_of_fits fun x hx => hcatalog ▸ fits_samples hx

/-- An answer with some of the fields. -/
def someFields : Element :=
  .mk "EnqGetStatisticResponse" "" [.mk "lock-time" "1.5" [],
    .mk "owner-state" "SAPControl-GREEN" [], .mk "backup-requests" "-1" [],
    .mk "owner-now" " 3 " [], .mk "locks-state" "SAPControl-BLUE" []]

/-- The statistic in it. -/
def someStatistic : LockStatistic :=
  { owner := { now := 3, state := "SAPControl-GREEN" }, locks := { state := "SAPControl-BLUE" }
    counts := { backupRequests := -1 }, lockTime := 1.5 }

theorem statistic_reported_some :
    Flat someFields.children ∧ lockStatistic someFields = .ok someStatistic ∧
      ReportsFields someFields { listed := {} }
        (samples someStatistic ({ listed := {} } : Member).sharedLabels) := by
  have hflat : Flat someFields.children := by simp [Flat, someFields]
  have hread : lockStatistic someFields = .ok someStatistic := by rfl
  exact ⟨hflat, hread, statistic_reported hflat hread _⟩

end SapMonitor.Scrape.Locks
