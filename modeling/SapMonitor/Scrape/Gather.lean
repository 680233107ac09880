import SapMonitor.Scrape.Alerts
import SapMonitor.Scrape.CacheUsage
import SapMonitor.Scrape.Instances
import SapMonitor.Scrape.Locks
import SapMonitor.Scrape.Queues
import SapMonitor.Scrape.WorkProcesses

/-!
# A whole scrape

A scrape runs all collectors that the settings ask for, each under its own
deadline, and merges their families in ascending order of names with those that
the process keeps of itself.  A collector that fails, or whose task is lost,
takes only its own families away.

Main results:

- `merge_sorted`: the merged families are in ascending order.
-/

namespace SapMonitor.Scrape

open Series (Family)
open Time (Moment Span)
open Remote (Outcome)

/-! ## The collectors of settings -/

variable {σ : Type}

/-- What becomes of alerts according to settings. -/
def Alerts.Policy.ofSettings (s : Settings) (readingsAt : Nat → Nat → Alerts.Readings) :
    Alerts.Policy :=
  { toMetrics := s.sendAlertsToProm, maxAge := s.alertMaxAge, readingsAt := readingsAt }

/-- The collectors of settings: the first two always, the others if they are
wanted. -/
def collectors (s : Settings) (system : MonitoredSystem σ) (outlet : Option (Alerts.Outlet σ))
    (readingsAt : Nat → Nat → Alerts.Readings) : List (Collector σ) :=
  [Instances.collector system, CacheUsage.collector σ] ++
    (if s.collectEnqueueserver then [Locks.collector system] else []) ++
    (if s.collectDispatcher then [Queues.collector system] else []) ++
    (if s.collectWorkprocess then [WorkProcesses.collector system] else []) ++
    (if s.collectAlerts then [Alerts.collector system (.ofSettings s readingsAt) outlet] else [])

/-! ## Merging -/

/-- The result of a collector: none, if its task was lost. -/
abbrev Result := Option (Outcome (List Family))

/-- The families of a result. -/
def families : Result → List Family
  | some (.ok fs) => fs
  | _ => []

/-- Whether one family comes before another. -/
def byName (a b : Family) : Bool :=
  a.name ≤ b.name

/-- The families of all results that have samples, in ascending order. -/
def merge (results : List Result) : List Family :=
  ((results.flatMap families).filter fun f => !f.points.isEmpty).mergeSort byName

/-- The merged families are in ascending order. -/
theorem merge_sorted (results : List Result) :
    (merge results).Pairwise fun a b => byName a b = true := by
  refine List.pairwise_mergeSort (fun a b c hab hbc => ?_) (fun a b => ?_) _
  · simp only [byName, decide_eq_true_eq] at *
    exact String.le_trans hab hbc
  · simp only [byName, Bool.or_eq_true, decide_eq_true_eq]
    exact String.le_total a.name b.name

/-- The families that the process keeps of itself, merged with those of collectors whose tasks
end in some order. -/
def join (own : List Family) (ended : List Result) : List Family :=
  merge (some (.ok own) :: ended)

/-! ## Gathering -/

/-- Runs collectors in order under one deadline each. -/
def runAll (d : Deadline) : List (Collector σ) → Watch σ (List (String × Outcome (List Family)))
  | [] => return []
  | c :: rest => do
    let result ← c.collect d
    return (c.name, result) :: (← runAll d rest)

/-- The warning about a collector that failed. -/
def failureNote? : String × Outcome (List Family) → Option Note
  | (_, .ok _) => none
  | (name, .error e) => some ⟨.warning, "Collector " ++ name ++ " scrape error: " ++ e.message⟩

/-- Scrapes everything. -/
def gather (timeout : Span) (own : Work σ (List Family)) (cs : List (Collector σ)) :
    Watch σ (List Family) := do
  let now ← (Work.now : Work σ Nat)
  let kept ← (own : Work σ (List Family))
  let results ← runAll (.after now timeout) cs
  (Work.noteAll (results.filterMap failureNote?) : Work σ Unit)
  return join kept (results.map fun r => some r.2)

end SapMonitor.Scrape
