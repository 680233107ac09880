import SapMonitor.Proofs.Scrape.AlertReports
import SapMonitor.Proofs.Series.Fitting

/-!
# Accounts of what is handed in

A collector can keep account of what it hands to its buffers: a batch for every time that samples
are recorded, with the buffer as it was before.  Keeping account changes nothing else.  Whatever
the monitor is answered, every sample of every batch fits the catalog of the collector, so that
counters below zero are the only samples that a buffer rejects.

Main results:

- `accountedTour_erase` and `accountedSurvey_erase`: keeping account changes nothing else.
- `inOrder_accountedSurvey`: a survey hands in nothing but what its visits yield.
- `Instances.catalog_creatable` and its like: a series can be created for every descriptor.
- `samples_fit`: all collectors together.
-/

namespace SapMonitor.Scrape

open Series (Buffer Catalog Family Sample)
open Landscape (Member WatchedProcess)
open Remote (LockStatistic Outcome StateColor)

variable {σ α : Type}

/-! ## Keeping account -/

/-- Samples that are recorded at once, and the buffer that they are recorded in. -/
structure Batch where
  buffer : Buffer
  samples : List Sample

/-- Visits members in order, records what the visits yield, and keeps account of it. -/
def accountedTour (visit : Member → Watch σ (List Sample)) (b : Buffer) :
    List Member → Watch σ (Buffer × List Batch)
  | [] => return (b, [])
  | m :: rest => do
    let samples ← visit m
    let next ← (record b samples : Work σ Buffer)
    let (last, batches) ← accountedTour visit next rest
    return (last, ⟨b, samples⟩ :: batches)

/-- A survey that keeps account. -/
def accountedSurvey (s : MonitoredSystem σ) (catalog : Catalog) (purpose : String)
    (matters : Member → Bool) (visit : Deadline → Member → Watch σ (List Sample)) (d : Deadline) :
    Watch σ (Outcome (List Family) × List Batch) := do
  match ← s.directory d with
  | .error e => return (.error (.within purpose e), [])
  | .ok directory =>
    let (b, batches) ←
      accountedTour (visit d) (.empty catalog) (directory.members.filter matters)
    return (.ok b.families, batches)

/-- What is left of a result with an account if the account is forgotten. -/
def forget {β : Type} (r : ((β × List Batch) × Memory) × World σ) : (β × Memory) × World σ :=
  ((r.1.1.1, r.1.2), r.2)

/-- A tour is the same if it keeps account. -/
theorem accountedTour_erase (visit : Member → Watch σ (List Sample)) (b : Buffer)
    (members : List Member) (memory : Memory) (w : World σ) :
    forget (accountedTour visit b members memory w) = visitAll visit b members memory w := by
  induction members generalizing b memory w with
  | nil => rfl
  | cons m rest ih =>
    simp only [accountedTour, visitAll, Watch.bind_run, Watch.lift_run]
    rw [← ih]
    rfl

/-- So is a survey. -/
theorem accountedSurvey_erase (s : MonitoredSystem σ) (catalog : Catalog) (purpose : String)
    (matters : Member → Bool) (visit : Deadline → Member → Watch σ (List Sample)) (d : Deadline)
    (memory : Memory) (w : World σ) :
    forget (accountedSurvey s catalog purpose matters visit d memory w) =
      survey s catalog purpose matters visit d memory w := by
  simp only [accountedSurvey, survey, Watch.bind_run]
  cases (s.directory d memory w).1.1 with
  | error e => rfl
  | ok directory =>
    simp only [Watch.bind_run]
    rw [← accountedTour_erase]
    rfl

/-! ## Batches in order -/

/-- A batch that a buffer of the catalog takes, up to counters below zero. -/
structure Batch.InOrder (c : Catalog) (x : Batch) : Prop where
  /-- The buffer is one for the descriptors of the catalog. -/
  catalog : x.buffer.catalog = c
  /-- Every sample names a descriptor, a series can be created for it, and there is a value for
  each label. -/
  fits : ∀ s ∈ x.samples, c.Fits s
  /-- The buffer rejects the counters below zero, and nothing else. -/
  rejected : (x.buffer.recordAll x.samples).2 = x.samples.filterMap Sample.negative?

/-- Samples that fit are in order for every buffer that has been filled. -/
theorem Batch.InOrder.of_fits {b : Buffer} (h : b.Sound) {samples : List Sample}
    (hfits : ∀ s ∈ samples, b.catalog.Fits s) : Batch.InOrder b.catalog ⟨b, samples⟩ where
  catalog := rfl
  fits := hfits
  rejected := h.rejections_of_fits hfits

/-- What visits yield is handed in, visit by visit. -/
theorem inOrder_accountedTour {visit : Member → Watch σ (List Sample)} {b : Buffer}
    (hb : b.Sound)
    (hfits : ∀ m memory w, ∀ s ∈ (visit m memory w).1.1, b.catalog.Fits s)
    (members : List Member) (memory : Memory) (w : World σ) {x : Batch}
    (hx : x ∈ (accountedTour visit b members memory w).1.1.2) : x.InOrder b.catalog := by
  induction members generalizing b memory w with
  | nil => cases hx
  | cons m rest ih =>
    simp only [accountedTour, Watch.bind_run, Watch.lift_run] at hx
    rcases List.mem_cons.1 hx with rfl | hx
    · exact .of_fits hb (hfits m memory w)
    · -- the rest of the tour goes on with the buffer that the samples have filled
      obtain ⟨hsound, hcatalog⟩ := hb.recordAll (visit m memory w).1.1
      rw [record_run] at hx
      rw [← hcatalog]
      refine ih hsound ?_ _ _ hx
      rw [hcatalog]
      exact hfits

/-- A survey hands in nothing but what its visits yield. -/
theorem inOrder_accountedSurvey {s : MonitoredSystem σ} {catalog : Catalog} {purpose : String}
    {matters : Member → Bool} {visit : Deadline → Member → Watch σ (List Sample)}
    (hfits : ∀ d m memory w, ∀ x ∈ (visit d m memory w).1.1, catalog.Fits x) (d : Deadline)
    (memory : Memory) (w : World σ) {x : Batch}
    (hx : x ∈ (accountedSurvey s catalog purpose matters visit d memory w).1.1.2) :
    x.InOrder catalog := by
  simp only [accountedSurvey, Watch.bind_run] at hx
  cases hread : (s.directory d memory w).1.1 with
  | error e =>
    rw [hread] at hx
    cases hx
  | ok directory =>
    rw [hread] at hx
    exact inOrder_accountedTour (Buffer.sound_empty catalog) (hfits d) _ _ _ hx

/-- What an inquiry yields is made of an answer. -/
theorem Inquiry.exists_of_mem_visit {q : Inquiry σ α} {d : Deadline} {m : Member}
    {memory : Memory} {w : World σ} {x : Sample} (hx : x ∈ (q.visit d m memory w).1.1) :
    ∃ a, x ∈ q.samples m a := by
  have houtcome := q.outcome_visit (d := d) ⟨m, memory, w⟩
  unfold Stop.outcome at houtcome
  rw [houtcome] at hx
  cases hanswer : (q.ask d m memory w).1.1 with
  | none =>
    rw [hanswer] at hx
    cases hx
  | some a =>
    rw [hanswer] at hx
    exact ⟨a, hx⟩

/-! ## Samples that fit -/

/-- The labels that all metrics of an instance share are names and differ. -/
theorem labelFault?_shared : Series.labelFault? [] Landscape.sharedLabelNames = none := by
  decide

namespace Instances

theorem creatable_withCounts {c : Catalog} (h : c.Creatable) (colors : List StateColor) :
    (withCounts c colors).Creatable := by
  have hcount (color : StateColor) : Catalog.isDescription (countMetric color)
      ("Processes in state " ++ Text.upper color.label) = true := by
    cases color <;> decide
  induction colors generalizing c with
  | nil => exact h
  | cons color colors ih => exact ih (h.insert (hcount color) labelFault?_shared)

theorem catalog_creatable : catalog.Creatable := by
  have hinstances : Series.labelFault? [] memberLabels = none := by decide
  have hprocesses : Series.labelFault? [] processLabels = none := by decide
  refine creatable_withCounts ?_ StateColor.all
  refine Catalog.Creatable.insert ?_ (by decide) hprocesses
  refine Catalog.Creatable.insert ?_ (by decide) hinstances
  exact Catalog.creatable_empty (by decide)

theorem fits_instanceSample (m : Member) : catalog.Fits (instanceSample m) := by
  have hlabels : catalog.labels? "instances" = some memberLabels := by rfl
  exact catalog_creatable.fits hlabels rfl

theorem fits_processSample (m : Member) (p : WatchedProcess) :
    catalog.Fits (processSample m p) := by
  have hlabels : catalog.labels? "processes" = some processLabels := by rfl
  exact catalog_creatable.fits hlabels rfl

theorem fits_colorSamples {m : Member} {ps : List WatchedProcess} {x : Sample}
    (hx : x ∈ colorSamples m ps) : catalog.Fits x := by
  have hcounts : ∀ c, catalog.labels? (countMetric c) = some Landscape.sharedLabelNames := by
    intro c
    cases c <;> rfl
  obtain ⟨c, -, rfl⟩ := List.mem_map.1 hx
  exact catalog_creatable.fits (hcounts c) rfl

theorem fits_processSamples {m : Member} {ps : List WatchedProcess} {x : Sample}
    (hx : x ∈ processSamples m ps) : catalog.Fits x := by
  rw [processSamples, List.mem_append] at hx
  rcases hx with hx | hx
  · obtain ⟨p, -, rfl⟩ := List.mem_map.1 hx
    exact fits_processSample m p
  · exact fits_colorSamples hx

end Instances

namespace CacheUsage

theorem catalog_creatable : catalog.Creatable := by
  have hlabels : Series.labelFault? [] ["cache"] = none := by decide
  repeat' refine Catalog.Creatable.insert ?_ (by decide) hlabels
  exact Catalog.creatable_empty (by decide)

theorem fits_reportSamples {r : CacheSummary} {x : Sample} (hx : x ∈ reportSamples r) :
    catalog.Fits x := by
  have hlabels : catalog.labels? x.metric = some ["cache"] ∧ x.labels.length = 1 := by
    simp only [reportSamples, List.mem_cons, List.not_mem_nil, or_false] at hx
    rcases hx with rfl | rfl | rfl | rfl | rfl | rfl | rfl <;> exact ⟨rfl, rfl⟩
  exact catalog_creatable.fits hlabels.1 hlabels.2

end CacheUsage

namespace Locks

theorem creatable_withReadings {β : Type} {c : Catalog} (h : c.Creatable)
    {readings : List (Reading β)}
    (hreadings : ∀ r ∈ readings, Catalog.isDescription r.metric r.help = true) :
    (withReadings c readings).Creatable := by
  induction readings generalizing c with
  | nil => exact h
  | cons r readings ih =>
    refine ih (h.insert (hreadings r List.mem_cons_self) labelFault?_shared) ?_
    intro r' hr'
    exact hreadings r' (List.mem_cons_of_mem r hr')

theorem catalog_creatable : catalog.Creatable := by
  have hempty : (Catalog.empty "enqueue_server").Creatable :=
    Catalog.creatable_empty (by decide)
  refine creatable_withReadings (creatable_withReadings (creatable_withReadings hempty ?_) ?_) ?_
  all_goals decide

theorem fits_samples {m : Member} {statistic : LockStatistic} {x : Sample}
    (hx : x ∈ samples statistic m.sharedLabels) : catalog.Fits x := by
  have hlevels : ∀ r ∈ levels, catalog.labels? r.metric = some Landscape.sharedLabelNames := by
    decide
  have hstates : ∀ r ∈ states, catalog.labels? r.metric = some Landscape.sharedLabelNames := by
    decide
  have htotals : ∀ r ∈ totals, catalog.labels? r.metric = some Landscape.sharedLabelNames := by
    decide
  rw [samples, List.mem_append, List.mem_append] at hx
  rcases hx with (hx | hx) | hx
  · obtain ⟨r, hr, rfl⟩ := List.mem_map.1 hx
    exact catalog_creatable.fits (hlevels r hr) rfl
  · obtain ⟨r, hr, hsample⟩ := List.mem_filterMap.1 hx
    obtain ⟨c, -, rfl⟩ := Option.map_eq_some_iff.1 hsample
    exact catalog_creatable.fits (hstates r hr) rfl
  · obtain ⟨r, hr, rfl⟩ := List.mem_map.1 hx
    exact catalog_creatable.fits (htotals r hr) rfl

end Locks

namespace Queues

theorem catalog_creatable : catalog.Creatable := by
  have hlabels : Series.labelFault? [] labels = none := by decide
  repeat' refine Catalog.Creatable.insert ?_ (by decide) hlabels
  exact Catalog.creatable_empty (by decide)

theorem fits_queueSamples {m : Member} {q : Remote.Queue} {x : Sample}
    (hx : x ∈ queueSamples m q) : catalog.Fits x := by
  have hlabels : catalog.labels? x.metric = some labels ∧ x.labels.length = labels.length := by
    simp only [queueSamples, List.mem_cons, List.not_mem_nil, or_false] at hx
    rcases hx with rfl | rfl | rfl | rfl | rfl <;> exact ⟨rfl, rfl⟩
  exact catalog_creatable.fits hlabels.1 hlabels.2

end Queues

namespace WorkProcesses

theorem catalog_creatable : catalog.Creatable := by
  have hlabels : Series.labelFault? [] labels = none := by decide
  have hcounts : Series.labelFault? []
      (["wp_type", "status"] ++ Landscape.sharedLabelNames) = none := by decide
  refine Catalog.Creatable.insert ?_ (by decide) hlabels
  refine Catalog.Creatable.insert ?_ (by decide) hlabels
  refine Catalog.Creatable.insert ?_ (by decide) hlabels
  refine Catalog.Creatable.insert ?_ (by decide) hcounts
  exact Catalog.creatable_empty (by decide)

theorem fits_samples {m : Member} {table : List Remote.WorkProcess} {x : Sample}
    (hx : x ∈ samples m table) : catalog.Fits x := by
  rw [samples, List.mem_append] at hx
  rcases hx with hx | hx
  · obtain ⟨row, -, hrow⟩ := List.mem_flatMap.1 hx
    have hlabels : catalog.labels? x.metric = some labels ∧ x.labels.length = labels.length := by
      simp only [processSamples, List.mem_cons, List.mem_append, List.mem_map] at hrow
      rcases hrow with (rfl | ⟨_, -, rfl⟩) | ⟨_, -, rfl⟩ <;> exact ⟨rfl, rfl⟩
    exact catalog_creatable.fits hlabels.1 hlabels.2
  · obtain ⟨c, -, rfl⟩ := List.mem_map.1 hx
    have hlabels : catalog.labels? "dispatcher_work_processes" =
        some (["wp_type", "status"] ++ Landscape.sharedLabelNames) := by rfl
    exact catalog_creatable.fits hlabels rfl

end WorkProcesses

namespace Alerts

theorem catalog_creatable : catalog.Creatable := by
  have hlabels : Series.labelFault? [] labels = none := by decide
  refine Catalog.Creatable.insert ?_ (by decide) hlabels
  exact Catalog.creatable_empty (by decide)

theorem fits_samples {p : Policy} {m : Member} {alerts : List Remote.Alert} {x : Sample}
    (hx : x ∈ samples p m alerts) : catalog.Fits x := by
  have hlabels : catalog.labels? "Alert" = some labels := by rfl
  rw [samples_eq] at hx
  split at hx
  · obtain ⟨a, -, hsample⟩ := List.mem_filterMap.1 hx
    obtain ⟨c, -, rfl⟩ := Option.map_eq_some_iff.1 hsample
    exact catalog_creatable.fits hlabels rfl
  · cases hx

end Alerts

/-! ## Collectors -/

/-- A collector hands batches of its own catalog to its buffers, all of them in order. -/
structure HandsIn (catalog : Catalog) (collect : Deadline → Watch σ (Outcome (List Family)))
    (accounted : Deadline → Watch σ (Outcome (List Family) × List Batch)) : Prop where
  same : ∀ d memory w, forget (accounted d memory w) = collect d memory w
  inOrder : ∀ d memory w, ∀ x ∈ (accounted d memory w).1.1.2, x.InOrder catalog

/-- An inquiry that keeps account. -/
def Inquiry.accounted (q : Inquiry σ α) (s : MonitoredSystem σ) :
    Deadline → Watch σ (Outcome (List Family) × List Batch) :=
  accountedSurvey s q.catalog q.purpose q.matters q.visit

theorem Inquiry.fits_visit {q : Inquiry σ α}
    (hfits : ∀ m a, ∀ x ∈ q.samples m a, q.catalog.Fits x) (d : Deadline) (m : Member)
    (memory : Memory) (w : World σ) : ∀ x ∈ (q.visit d m memory w).1.1, q.catalog.Fits x := by
  intro x hx
  obtain ⟨a, hxa⟩ := Inquiry.exists_of_mem_visit hx
  exact hfits m a x hxa

/-- An inquiry whose answers are made into samples that fit hands in nothing else. -/
theorem Inquiry.handsIn {q : Inquiry σ α} (s : MonitoredSystem σ)
    (hfits : ∀ m a, ∀ x ∈ q.samples m a, q.catalog.Fits x) :
    HandsIn q.catalog (q.run s) (q.accounted s) where
  same _ _ _ := accountedSurvey_erase ..
  inOrder d memory w _ hx := inOrder_accountedSurvey (Inquiry.fits_visit hfits) d memory w hx

/-- The collector of instances and processes, keeping account of both parts. -/
def Instances.accounted (s : MonitoredSystem σ) (d : Deadline) :
    Watch σ (Outcome (List Family) × List Batch) := do
  let (instances, first) ← accountedSurvey s Instances.catalog "recordInstances collector error"
    (fun _ => true) (fun _ m => return [Instances.instanceSample m]) d
  let (processes, second) ← (Instances.inquiry s).accounted s d
  (Work.noteAll (Instances.failureNotes [instances, processes]) : Work σ Unit)
  return (Instances.combine instances processes, first ++ second)

theorem Instances.handsIn (s : MonitoredSystem σ) :
    HandsIn Instances.catalog (Instances.collector s).collect (Instances.accounted s) where
  same d memory w := by
    simp only [Instances.accounted, Instances.collector, Watch.bind_run, Watch.lift_run]
    rw [← Instances.collectProcesses_eq, Instances.collectInstances, Inquiry.run]
    rw [← accountedSurvey_erase, ← accountedSurvey_erase]
    rfl
  inOrder d memory w x hx := by
    simp only [Instances.accounted, Watch.bind_run, Watch.lift_run] at hx
    rcases List.mem_append.1 hx with hx | hx
    · refine inOrder_accountedSurvey ?_ d _ _ hx
      intro d m memory w y hy
      obtain rfl : y = Instances.instanceSample m := List.mem_singleton.1 hy
      exact Instances.fits_instanceSample m
    · refine ((Instances.inquiry s).handsIn s ?_).inOrder d _ _ x hx
      intro m ps y hy
      exact Instances.fits_processSamples hy

/-- The collector of the caches, keeping account. -/
def CacheUsage.accounted (_ : Deadline) : Watch σ (Outcome (List Family) × List Batch) := do
  let samples := (← get).reports.flatMap CacheUsage.reportSamples
  let b ← (record (.empty CacheUsage.catalog) samples : Work σ Buffer)
  return (.ok b.families, [⟨.empty CacheUsage.catalog, samples⟩])

theorem CacheUsage.handsIn (σ : Type) :
    HandsIn CacheUsage.catalog (CacheUsage.collector σ).collect CacheUsage.accounted where
  same d memory w := rfl
  inOrder d memory w x hx := by
    obtain rfl := List.mem_singleton.1 hx
    refine Batch.InOrder.of_fits (Buffer.sound_empty CacheUsage.catalog) ?_
    intro y hy
    obtain ⟨r, -, hr⟩ := List.mem_flatMap.1 hy
    exact CacheUsage.fits_reportSamples hr

/-- Every collector hands in samples that fit, whatever is answered to it. -/
structure SamplesFit (s : MonitoredSystem σ) (p : Alerts.Policy)
    (outlet : Option (Alerts.Outlet σ)) : Prop where
  startService :
    HandsIn Instances.catalog (Instances.collector s).collect (Instances.accounted s)
  cache : HandsIn CacheUsage.catalog (CacheUsage.collector σ).collect CacheUsage.accounted
  locks : HandsIn Locks.catalog (Locks.collector s).collect ((Locks.inquiry s).accounted s)
  queues : HandsIn Queues.catalog (Queues.collector s).collect ((Queues.inquiry s).accounted s)
  workProcesses : HandsIn WorkProcesses.catalog (WorkProcesses.collector s).collect
    ((WorkProcesses.inquiry s).accounted s)
  alerts : HandsIn Alerts.catalog (Alerts.collector s p outlet).collect
    ((Alerts.inquiry s p outlet).accounted s)

/-- All collectors hand in samples that fit, so that counters below zero are the only readings
that are dropped. -/
theorem samples_fit (s : MonitoredSystem σ) (p : Alerts.Policy)
    (outlet : Option (Alerts.Outlet σ)) : SamplesFit s p outlet where
  startService := Instances.handsIn s
  cache := CacheUsage.handsIn σ
  locks := by
    rw [Locks.collect_eq]
    exact (Locks.inquiry s).handsIn s fun _ _ _ hx => Locks.fits_samples hx
  queues := by
    rw [Queues.collect_eq]
    refine (Queues.inquiry s).handsIn s ?_
    intro m queues x hx
    obtain ⟨q, -, hq⟩ := List.mem_flatMap.1 hx
    exact Queues.fits_queueSamples hq
  workProcesses := by
    rw [WorkProcesses.collect_eq]
    exact (WorkProcesses.inquiry s).handsIn s fun _ _ _ hx => WorkProcesses.fits_samples hx
  alerts := by
    rw [Alerts.collect_eq]
    exact (Alerts.inquiry s p outlet).handsIn s fun _ _ _ hx => Alerts.fits_samples hx

end SapMonitor.Scrape
