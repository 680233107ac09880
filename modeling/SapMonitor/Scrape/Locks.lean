import SapMonitor.Scrape.Survey

/-!
# The lock server

Every instance with the lock server reports how full its lock table is, how it
is doing, and what it has done.  Each number of a statistic belongs to the
metric of the same name.
-/

namespace SapMonitor.Scrape.Locks

open Series (Catalog Family Sample)
open Landscape (Member)
open Remote (LockStatistic Outcome StateColor)

/-! ## Metrics and where their values come from -/

/-- A metric with its help text and the place of its value in a statistic. -/
structure Reading (α : Type) where
  metric : String
  help : String
  value : LockStatistic → α

/-- How full the lock table is. -/
def levels : List (Reading Int) := [
  ⟨"owner_now", "Current number of lock owners in the lock table", fun s => s.owner.now⟩,
  ⟨"owner_high", "Peak number of lock owners in the lock table", fun s => s.owner.high⟩,
  ⟨"owner_max", "Maximum number of lock owners in the lock table", fun s => s.owner.max⟩,
  ⟨"arguments_now", "Current number of lock arguments in the lock table",
    fun s => s.arguments.now⟩,
  ⟨"arguments_high", "Peak number of lock arguments in the lock table",
    fun s => s.arguments.high⟩,
  ⟨"arguments_max", "Maximum number of lock arguments in the lock table",
    fun s => s.arguments.max⟩,
  ⟨"locks_now", "Current number of elementary locks in the lock table", fun s => s.locks.now⟩,
  ⟨"locks_high", "Peak number of elementary locks in the lock table", fun s => s.locks.high⟩,
  ⟨"locks_max", "Maximum number of elementary locks in the lock table", fun s => s.locks.max⟩]

/-- How the lock server is doing. -/
def states : List (Reading String) := [
  ⟨"owner_state", "General state of the lock owner table", fun s => s.owner.state⟩,
  ⟨"arguments_state", "General state of the lock argument table", fun s => s.arguments.state⟩,
  ⟨"locks_state", "General state of the elementary lock table", fun s => s.locks.state⟩,
  ⟨"replication_state", "General state of lock server replication",
    fun s => s.replicationState⟩]

/-- What the lock server has done. -/
def totals : List (Reading Float) := [
  ⟨"enqueue_requests", "Lock acquisition requests", fun s => .ofInt s.counts.enqueueRequests⟩,
  ⟨"enqueue_rejects", "Rejected lock requests", fun s => .ofInt s.counts.enqueueRejects⟩,
  ⟨"enqueue_errors", "Lock acquisition errors", fun s => .ofInt s.counts.enqueueErrors⟩,
  ⟨"dequeue_requests", "Lock release requests", fun s => .ofInt s.counts.dequeueRequests⟩,
  ⟨"dequeue_errors", "Lock release errors", fun s => .ofInt s.counts.dequeueErrors⟩,
  ⟨"dequeue_all_requests", "Requests to release all the locks of a LUW",
    fun s => .ofInt s.counts.dequeueAllRequests⟩,
  ⟨"cleanup_requests", "Requests to release all the locks of an application server",
    fun s => .ofInt s.counts.cleanupRequests⟩,
  ⟨"backup_requests", "Number of update requests written to the backup file",
    fun s => .ofInt s.counts.backupRequests⟩,
  ⟨"reporting_requests", "Number of reading operations on the lock table",
    fun s => .ofInt s.counts.reportingRequests⟩,
  ⟨"compress_requests", "Internal lock table compression requests",
    fun s => .ofInt s.counts.compressRequests⟩,
  ⟨"verify_requests", "Internal verification requests of the update process",
    fun s => .ofInt s.counts.verifyRequests⟩,
  ⟨"lock_time", "Total time spent in the lock table, in seconds", fun s => s.lockTime⟩,
  ⟨"lock_wait_time", "Total wait time of all threads for the lock table, in seconds",
    fun s => s.lockWaitTime⟩,
  ⟨"server_time", "Total time spent in the enqueue server, in seconds", fun s => s.serverTime⟩]

/-- The catalog with the metrics of readings. -/
def withReadings {α : Type} (c : Catalog) (readings : List (Reading α)) : Catalog :=
  readings.foldl (fun c r => c.insert r.metric r.help Landscape.sharedLabelNames) c

/-- The metrics of the lock server. -/
def catalog : Catalog :=
  withReadings (withReadings (withReadings (.empty "enqueue_server") levels) states) totals

/-! ## Samples -/

/-- The sample of a state, unless it is missing or no colour. -/
def stateSample? (s : LockStatistic) (common : List String) (r : Reading String) :
    Option Sample :=
  (StateColor.read? (r.value s)).map fun c => .gauge r.metric c.value common

/-- What is wrong with a state; older releases leave one of them empty. -/
def stateNote? (s : LockStatistic) (r : Reading String) : Option Note :=
  if (r.value s).isEmpty then none
  else
    match StateColor.read (r.value s) with
    | .ok _ => none
    | .error e => some ⟨.warning, "EnqGetStatistic " ++ r.metric ++ ": " ++ e.message⟩

/-- The samples of a statistic. -/
def samples (s : LockStatistic) (common : List String) : List Sample :=
  levels.map (fun r => .gauge r.metric (Float.ofInt (r.value s)) common) ++
    states.filterMap (stateSample? s common) ++
    totals.map fun r => .counter r.metric (r.value s) common

/-! ## Collection -/

variable {σ : Type}

/-- Asks an instance for its statistic. -/
def visit (s : MonitoredSystem σ) (d : Deadline) (m : Member) : Watch σ (List Sample) := do
  match ← (s.service.lockStatistic d m.endpoint : Work σ _) with
  | .error e => skip ("EnqGetStatistic error, instance " ++ m.endpoint ++ ": " ++ e.message)
  | .ok statistic =>
    (Work.noteAll (states.filterMap (stateNote? statistic)) : Work σ Unit)
    return samples statistic m.sharedLabels

/-- The collector of the lock server. -/
def collector (s : MonitoredSystem σ) : Collector σ :=
  { name := catalog.subsystem
    collect := survey s catalog "recordEnqStatistic collector error"
      (fun m => m.provides "ENQUE") (visit s) }

end SapMonitor.Scrape.Locks
