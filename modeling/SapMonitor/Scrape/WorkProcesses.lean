import SapMonitor.Decimal.Binary
import SapMonitor.Scrape.Survey

/-!
# Work processes

Every instance that runs programs reports a table of its work processes.  Each
work process has a status; its use of the processor and its running time are
reported where they are numbers.  Work processes are counted by kind and
status.

Main results:

- `total_tally`: counting adds one to the sum of the counts.
-/

namespace SapMonitor.Scrape.WorkProcesses

open Series (Catalog Sample)
open Landscape (Member)
open Remote (WorkProcess)

/-! ## Metrics -/

/-- The labels of work processes. -/
def labels : List String :=
  ["wp_type", "status", "pid", "name", "description", "client", "user"] ++
    Landscape.sharedLabelNames

/-- The metrics of work processes. -/
def catalog : Catalog :=
  ((((Catalog.empty "workprocess").insert "dispatcher_work_processes"
    "Dispatcher work process counts by type and status"
    (["wp_type", "status"] ++ Landscape.sharedLabelNames)).insert "dispatcher_work_processes_status"
    "Status of SAP process" labels).insert "dispatcher_work_processes_cpu"
    "CPU usage percentage of SAP process" labels).insert "dispatcher_work_processes_elapsed"
    "Elapsed time of SAP process in seconds" labels

/-! ## Samples -/

/-- The status of a work process as a number: one if it runs, a half if it
waits, in letters of either case. -/
def statusValue (status : String) : Float :=
  let status := Text.upper status
  if Text.contains status "RUN" then 1
  else if Text.contains status "WAIT" then 0.5
  else 0

/-- A number in a column of the table, if it is one. -/
def columnValue? (text : String) : Option Float :=
  Decimal.readFloat? (Text.strip Text.isBlank text.toList)

/-- The samples of a work process. -/
def processSamples (m : Member) (w : WorkProcess) : List Sample :=
  let values := withCommon
    [w.type, w.status, w.pid, "WP-" ++ w.number, w.reason, w.client, w.user] m.sharedLabels
  .gauge "dispatcher_work_processes_status" (statusValue w.status) values ::
    ((columnValue? w.cpu).toList.map fun x => .gauge "dispatcher_work_processes_cpu" x values) ++
    (columnValue? w.time).toList.map fun x => .gauge "dispatcher_work_processes_elapsed" x values

/-- Whether a pair of texts comes before another one. -/
def pairBefore (a b : String × String) : Bool :=
  a.1 < b.1 || (a.1 == b.1 && a.2 < b.2)

/-- Counts in ascending order, with one more of a pair. -/
def tally (pair : String × String) :
    List ((String × String) × Nat) → List ((String × String) × Nat)
  | [] => [(pair, 1)]
  | (p, n) :: rest =>
    if pair = p then (p, n + 1) :: rest
    else if pairBefore pair p then (pair, 1) :: (p, n) :: rest
    else (p, n) :: tally pair rest

/-- The sum of counts. -/
def total : List ((String × String) × Nat) → Nat
  | [] => 0
  | (_, n) :: rest => n + total rest

/-- Counting adds one to the sum of the counts. -/
theorem total_tally (pair : String × String) (counts : List ((String × String) × Nat)) :
    total (tally pair counts) = total counts + 1 := by
  induction counts with
  | nil => rfl
  | cons entry rest ih =>
    obtain ⟨p, n⟩ := entry
    unfold tally
    split
    · simp only [total]
      omega
    · split
      · simp only [total]
        omega
      · simp only [total, ih]
        omega

/-- The numbers of work processes by kind and status. -/
def counts (table : List WorkProcess) : List ((String × String) × Nat) :=
  table.foldl (fun counts w => tally (w.type, w.status) counts) []

/-- The sample of a count. -/
def countSample (m : Member) (c : (String × String) × Nat) : Sample :=
  .gauge "dispatcher_work_processes" (Float.ofNat c.2)
    (withCommon [c.1.1, c.1.2] m.sharedLabels)

/-- The samples of a table. -/
def samples (m : Member) (table : List WorkProcess) : List Sample :=
  table.flatMap (processSamples m) ++ (counts table).map (countSample m)

/-! ## Collection -/

variable {σ : Type}

/-- Asks an instance for its work processes. -/
def visit (s : MonitoredSystem σ) (d : Deadline) (m : Member) : Watch σ (List Sample) := do
  match ← (s.service.workProcesses d m.endpoint : Work σ _) with
  | .error e =>
    (Work.complain ("ABAPGetWPTable error " ++ e.message) : Work σ Unit)
    return []
  | .ok table => return samples m table

/-- The collector of work processes. -/
def collector (s : MonitoredSystem σ) : Collector σ :=
  { name := catalog.subsystem
    collect := survey s catalog "recordWorkProcessStats collector error"
      (fun m => m.provides "ABAP") (visit s) }

end SapMonitor.Scrape.WorkProcesses
