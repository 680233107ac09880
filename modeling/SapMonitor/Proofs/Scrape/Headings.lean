import SapMonitor.Proofs.Scrape.Isolation
import SapMonitor.Proofs.Scrape.Merging

/-!
# The headings of collectors

All names that a collector hands out begin with its subsystem, whatever it is answered, and no
name occurs twice.  For that no metric may have both gauges and counters, and the two parts of
the collector of instances and processes must have different metrics.  The subsystems of the
monitor do not begin each other, nor do they begin what the process says of itself.

Main results:

- `headed_collect`: what a collector hands out.
- `pairwise_headings`: no name has two headings.
- `distinct_of_ended`: no name occurs twice in a scrape.
-/

namespace SapMonitor.Scrape

open Series (Buffer Catalog Family Kind Sample)
open Landscape (Member)
open Remote (Outcome)
open Time (Moment)

variable {σ α : Type}

/-! ## Families of samples -/

/-- The beginning of all names of a subsystem. -/
def heading (subsystem : String) : String :=
  Series.rootNamespace ++ "_" ++ subsystem ++ "_"

theorem heading_ne (subsystem : String) : heading subsystem ≠ "" := by
  intro h
  have htext := congrArg String.toList h
  rw [heading, String.toList_append, String.toList_empty, List.append_eq_nil_iff] at htext
  exact absurd htext.2 (by decide)

/-- Samples whose metrics say their kinds make families under the heading of the subsystem. -/
theorem headed_filled {c : Catalog} (hsubsystem : c.subsystem.isEmpty = false)
    {samples : List Sample} (kind : String → Kind) (h : ∀ x ∈ samples, x.kind = kind x.metric) :
    Headed (heading c.subsystem) (Buffer.filled c samples).families where
  begins f hf := by
    obtain ⟨x, -, hname, hne⟩ := Buffer.name_of_mem_families hf
    have hmetric : x.metric.isEmpty = false := by simpa using hne
    rw [hname, Catalog.seriesName_of_parts hmetric hsubsystem]
    change _ <+: (heading c.subsystem ++ x.metric).toList
    rw [String.toList_append]
    exact List.prefix_append _ _
  nodup := Buffer.nodup_names_filled kind h

/-- Whatever becomes of an inquiry, its families are made of what it hears. -/
theorem Inquiry.families_run (q : Inquiry σ α) (s : MonitoredSystem σ) (d : Deadline)
    (memory : Memory) (w : World σ) :
    ∃ heard, Scrape.families (some (q.run s d memory w).1.1) = q.families heard := by
  cases hread : (s.directory d memory w).1.1 with
  | error e =>
    rw [run_of_error (ending_eq hread)]
    exact ⟨[], rfl⟩
  | ok directory =>
    rw [run_of_directory hread]
    exact ⟨_, rfl⟩

/-- They stand under the heading of its subsystem. -/
theorem Inquiry.headed_run {q : Inquiry σ α} (hsubsystem : q.catalog.subsystem.isEmpty = false)
    (kind : String → Kind) (h : ∀ m a, ∀ x ∈ q.samples m a, x.kind = kind x.metric)
    (s : MonitoredSystem σ) (d : Deadline) (memory : Memory) (w : World σ) :
    Headed (heading q.catalog.subsystem) (Scrape.families (some (q.run s d memory w).1.1)) := by
  obtain ⟨heard, hfamilies⟩ := q.families_run s d memory w
  rw [hfamilies]
  refine headed_filled hsubsystem kind fun x hx => ?_
  obtain ⟨y, -, hxy⟩ := List.mem_flatMap.1 hx
  exact h y.1 y.2 x hxy

/-! ## The kinds of metrics -/

/-- What the lock server has done is counted; the rest is measured. -/
def Locks.kind (metric : String) : Kind :=
  if Locks.totals.any (fun r => r.metric == metric) then .counter else .gauge

theorem Locks.kind_of_mem {statistic : Remote.LockStatistic} {common : List String} {x : Sample}
    (hx : x ∈ Locks.samples statistic common) : x.kind = Locks.kind x.metric := by
  have hlevels : ∀ r ∈ Locks.levels, Locks.kind r.metric = .gauge := by decide
  have hstates : ∀ r ∈ Locks.states, Locks.kind r.metric = .gauge := by decide
  have htotals : ∀ r ∈ Locks.totals, Locks.kind r.metric = .counter := by decide
  rw [Locks.samples, List.mem_append, List.mem_append] at hx
  rcases hx with (hx | hx) | hx
  · obtain ⟨r, hr, rfl⟩ := List.mem_map.1 hx
    exact (hlevels r hr).symm
  · obtain ⟨r, hr, hsample⟩ := List.mem_filterMap.1 hx
    obtain ⟨c, -, rfl⟩ := Option.map_eq_some_iff.1 hsample
    exact (hstates r hr).symm
  · obtain ⟨r, hr, rfl⟩ := List.mem_map.1 hx
    exact (htotals r hr).symm

/-- Lengths of queues are measured; the rest is counted. -/
def Queues.kind (metric : String) : Kind :=
  if metric = "queue_now" ∨ metric = "queue_max" then .gauge else .counter

theorem Queues.kind_of_mem {m : Member} {q : Remote.Queue} {x : Sample}
    (hx : x ∈ Queues.queueSamples m q) : x.kind = Queues.kind x.metric := by
  simp only [Queues.queueSamples, List.mem_cons, List.not_mem_nil, or_false] at hx
  rcases hx with rfl | rfl | rfl | rfl | rfl <;> rfl

theorem WorkProcesses.kind_of_mem {m : Member} {table : List Remote.WorkProcess} {x : Sample}
    (hx : x ∈ WorkProcesses.samples m table) : x.kind = .gauge := by
  rw [WorkProcesses.samples, List.mem_append] at hx
  rcases hx with hx | hx
  · obtain ⟨row, -, hrow⟩ := List.mem_flatMap.1 hx
    simp only [WorkProcesses.processSamples, List.mem_cons, List.mem_append, List.mem_map] at hrow
    rcases hrow with (rfl | ⟨_, -, rfl⟩) | ⟨_, -, rfl⟩ <;> rfl
  · obtain ⟨c, -, rfl⟩ := List.mem_map.1 hx
    rfl

theorem Alerts.kind_of_mem {p : Alerts.Policy} {m : Member} {alerts : List Remote.Alert}
    {x : Sample} (hx : x ∈ Alerts.samples p m alerts) : x.kind = .gauge := by
  induction alerts with
  | nil => cases hx
  | cons a rest ih =>
    rw [Alerts.samples] at hx
    split at hx
    · split at hx
      · rcases List.mem_cons.1 hx with rfl | hx
        · rfl
        · exact ih hx
      · exact ih hx
    · exact ih hx

/-- What is in the caches is measured; their use is counted. -/
def CacheUsage.kind (metric : String) : Kind :=
  if metric = "entries" then .gauge else .counter

theorem CacheUsage.kind_of_mem {r : CacheSummary} {x : Sample}
    (hx : x ∈ CacheUsage.reportSamples r) : x.kind = CacheUsage.kind x.metric := by
  simp only [CacheUsage.reportSamples, List.mem_cons, List.not_mem_nil, or_false] at hx
  rcases hx with rfl | rfl | rfl | rfl | rfl | rfl | rfl <;> rfl

/-! ## Instances and processes -/

namespace Instances

theorem mem_processSamples {m : Member} {ps : List Landscape.WatchedProcess} {x : Sample}
    (hx : x ∈ processSamples m ps) : x.kind = .gauge ∧ x.metric ≠ "instances" := by
  have hprocesses : "processes" ≠ "instances" := by decide
  have hcounts : ∀ c ∈ Remote.StateColor.all, countMetric c ≠ "instances" := by decide
  rw [processSamples, List.mem_append] at hx
  rcases hx with hx | hx
  · obtain ⟨process, -, rfl⟩ := List.mem_map.1 hx
    exact ⟨rfl, hprocesses⟩
  · obtain ⟨c, hc, rfl⟩ := List.mem_map.1 hx
    exact ⟨rfl, hcounts c hc⟩

/-- The part of instances hands out the families of members. -/
theorem families_collectInstances (s : MonitoredSystem σ) (d : Deadline) (memory : Memory)
    (w : World σ) : ∃ members,
      families (some (collectInstances s d memory w).1.1) = memberFamilies members := by
  cases hread : (s.directory d memory w).1.1 with
  | error e =>
    rw [collectInstances, survey_of_error (ending_eq hread)]
    exact ⟨[], rfl⟩
  | ok directory =>
    rw [collectInstances_of_directory hread]
    exact ⟨directory.members, rfl⟩

/-- The families of the parts that succeed are handed out, those of the instances first. -/
theorem families_combine (a b : Outcome (List Family)) :
    families (some (combine a b)) = families (some a) ++ families (some b) := by
  cases a with
  | error e =>
    cases b with
    | error e' => rfl
    | ok gs => cases gs <;> rfl
  | ok fs =>
    cases b with
    | error e => cases fs <;> simp [combine, families]
    | ok gs => rfl

/-- The family of instances has another name than all families of processes. -/
theorem ne_of_mem_parts {members : List Member}
    {heard : List (Member × List Landscape.WatchedProcess)} {f g : Family}
    (hf : f ∈ memberFamilies members)
    (hg : g ∈ (Buffer.filled catalog (heard.flatMap fun x => processSamples x.1 x.2)).families) :
    f.name ≠ g.name := by
  obtain ⟨x, hx, hfname, hfne⟩ := Buffer.name_of_mem_families hf
  obtain ⟨y, hy, hgname, hgne⟩ := Buffer.name_of_mem_families hg
  obtain ⟨m, -, rfl⟩ := List.mem_map.1 hx
  obtain ⟨part, -, hpart⟩ := List.mem_flatMap.1 hy
  rw [hfname, hgname]
  intro hname
  exact (mem_processSamples hpart).2 (Catalog.seriesName_injective hfne hgne hname).symm

/-- Both parts together hand out families under one heading. -/
theorem headed_collect (s : MonitoredSystem σ) (d : Deadline) (memory : Memory) (w : World σ) :
    Headed (heading catalog.subsystem)
      (families (some ((collector s).collect d memory w).1.1)) := by
  rw [collect_run]
  simp only
  rw [families_combine, ← collectProcesses_eq]
  obtain ⟨members, hinstances⟩ := families_collectInstances s d memory w
  rw [hinstances]
  refine Headed.append (headed_filled rfl (fun _ => .gauge) ?_) ?_ ?_
  · intro x hx
    obtain ⟨m, -, rfl⟩ := List.mem_map.1 hx
    rfl
  · exact Inquiry.headed_run (q := inquiry s) rfl (fun _ => .gauge)
      (fun m ps x hx => (mem_processSamples hx).1) ..
  · -- two buffers are filled, so only their metrics can keep the names apart
    intro f hf g hg
    obtain ⟨heard, hprocesses⟩ := (inquiry s).families_run s d _ _
    rw [hprocesses] at hg
    exact ne_of_mem_parts hf hg

end Instances

/-! ## All collectors -/

/-- The samples of the caches make families under their heading. -/
theorem CacheUsage.headed_collect (d : Deadline) (memory : Memory) (w : World σ) :
    Headed (heading CacheUsage.catalog.subsystem)
      (families (some ((CacheUsage.collector σ).collect d memory w).1.1)) := by
  have hrun : ((CacheUsage.collector σ).collect d memory w).1.1 =
      .ok (Buffer.filled CacheUsage.catalog
        (memory.reports.flatMap CacheUsage.reportSamples)).families := by
    simp only [CacheUsage.collector, Watch.bind_run, Watch.get_run, Watch.lift_run, record_run]
    rfl
  rw [hrun]
  refine headed_filled rfl CacheUsage.kind fun x hx => ?_
  obtain ⟨r, -, hr⟩ := List.mem_flatMap.1 hx
  exact CacheUsage.kind_of_mem hr

/-- Whatever happens, a collector hands out families under the heading of its name. -/
theorem headed_collect {s : Settings} {system : MonitoredSystem σ}
    {outlet : Option (Alerts.Outlet σ)} {readingsAt : Nat → Nat → Alerts.Readings} {c : Collector σ}
    (hc : c ∈ collectors s system outlet readingsAt) (d : Deadline) (memory : Memory)
    (w : World σ) : Headed (heading c.name) (families (some (c.collect d memory w).1.1)) := by
  simp only [collectors, List.mem_append, List.mem_cons, List.not_mem_nil, or_false,
    List.mem_ite_nil_right] at hc
  rcases hc with ((((rfl | rfl) | ⟨-, rfl⟩) | ⟨-, rfl⟩) | ⟨-, rfl⟩) | ⟨-, rfl⟩
  · exact Instances.headed_collect system d memory w
  · exact CacheUsage.headed_collect d memory w
  · rw [Locks.collect_eq]
    exact Inquiry.headed_run (q := Locks.inquiry system) rfl Locks.kind
      (fun _ _ _ hx => Locks.kind_of_mem hx) ..
  · rw [Queues.collect_eq]
    refine Inquiry.headed_run (q := Queues.inquiry system) rfl Queues.kind ?_ ..
    intro m queues x hx
    obtain ⟨queue, -, hqueue⟩ := List.mem_flatMap.1 hx
    exact Queues.kind_of_mem hqueue
  · rw [WorkProcesses.collect_eq]
    exact Inquiry.headed_run (q := WorkProcesses.inquiry system) rfl (fun _ => .gauge)
      (fun _ _ _ hx => WorkProcesses.kind_of_mem hx) ..
  · rw [Alerts.collect_eq]
    exact Inquiry.headed_run (q := Alerts.inquiry system _ outlet) rfl (fun _ => .gauge)
      (fun _ _ _ hx => Alerts.kind_of_mem hx) ..

/-! ## Results of a scrape -/

/-- The subsystems that settings ask for. -/
def subsystems (s : Settings) : List String :=
  ["start_service", "cache"] ++
    (if s.collectEnqueueserver then ["enqueue_server"] else []) ++
    (if s.collectDispatcher then ["dispatcher"] else []) ++
    (if s.collectWorkprocess then ["workprocess"] else []) ++
    (if s.collectAlerts then ["alerts"] else [])

/-- Each of them has one collector. -/
theorem map_name_collectors (s : Settings) (system : MonitoredSystem σ)
    (outlet : Option (Alerts.Outlet σ)) (readingsAt : Nat → Nat → Alerts.Readings) :
    (collectors s system outlet readingsAt).map Collector.name = subsystems s := by
  simp only [collectors, subsystems, List.map_append, apply_ite (List.map Collector.name)]
  rfl

/-- How the task of a collector can end, whatever it is answered and whatever is done meanwhile:
it is lost, or the collector comes to its end in some surroundings. -/
def CanEnd (s : Settings) (subsystem : String) (r : Result) : Prop :=
  r = none ∨ ∃ (σ : Type) (system : MonitoredSystem σ) (outlet : Option (Alerts.Outlet σ))
    (readingsAt : Nat → Nat → Alerts.Readings),
    ∃ c ∈ collectors s system outlet readingsAt, c.name = subsystem ∧
      ∃ d memory w, r = some (c.collect d memory w).1.1

theorem CanEnd.headed {s : Settings} {subsystem : String} {r : Result}
    (h : CanEnd s subsystem r) : Headed (heading subsystem) (families r) := by
  rcases h with rfl | ⟨σ, system, outlet, readingsAt, c, hc, rfl, d, memory, w, rfl⟩
  · exact Headed.nil _
  · exact headed_collect hc d memory w

/-- The results of the collectors that settings ask for, in the order of the collectors. -/
def Ended (s : Settings) (results : List Result) : Prop :=
  List.Forall₂ (CanEnd s) (subsystems s) results

/-- The heading of what the process says of itself. -/
def ownHeading : String := "process_"

theorem ite_sublist (b : Bool) (xs : List String) : (if b then xs else []).Sublist xs := by
  cases b with
  | true => exact List.Sublist.refl _
  | false => exact List.nil_sublist _

/-- No name begins with the headings of two subsystems, or with one and that of the process. -/
theorem pairwise_headings (s : Settings) :
    (ownHeading :: (subsystems s).map heading).Pairwise Incompatible := by
  have hall : (ownHeading :: (["start_service", "cache"] ++ ["enqueue_server"] ++ ["dispatcher"] ++
      ["workprocess"] ++ ["alerts"]).map heading).Pairwise Incompatible := by
    decide
  -- settings leave subsystems out, they add none
  refine hall.sublist (List.Sublist.cons_cons _ (List.Sublist.map _ ?_))
  exact ((((List.Sublist.refl _).append (ite_sublist _ _)).append (ite_sublist _ _)).append
    (ite_sublist _ _)).append (ite_sublist _ _)

/-- All families of a scrape stand under headings. -/
theorem headed_of_ended {s : Settings} {own : List Family} {results : List Result}
    (hown : Headed ownHeading own) (h : Ended s results) :
    List.Forall₂ (fun heading r => Headed heading (families r))
      (ownHeading :: (subsystems s).map heading) (some (.ok own) :: results) := by
  refine List.Forall₂.cons hown ?_
  rw [List.forall₂_map_left_iff]
  exact h.imp fun _ _ hend => hend.headed

/-- No name occurs twice in a scrape. -/
theorem distinct_of_ended {s : Settings} {own : List Family} {results : List Result}
    (hown : Headed ownHeading own) (h : Ended s results) : Distinct (some (.ok own) :: results) :=
  distinct_of_headed (pairwise_headings s) (headed_of_ended hown h)

/-- No family of a scrape lacks a name. -/
theorem name_ne_of_ended {s : Settings} {own : List Family} {results : List Result}
    (hown : Headed ownHeading own) (h : Ended s results) {f : Family}
    (hf : f ∈ (some (.ok own) :: results).flatMap families) : f.name ≠ "" := by
  obtain ⟨beginning, hmem, fs, hheaded, hfs⟩ := exists_headed (headed_of_ended hown h) hf
  refine hheaded.name_ne ?_ hfs
  rcases List.mem_cons.1 hmem with rfl | hmem
  · decide
  · obtain ⟨subsystem, -, rfl⟩ := List.mem_map.1 hmem
    exact heading_ne subsystem

end SapMonitor.Scrape
