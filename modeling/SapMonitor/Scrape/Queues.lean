import SapMonitor.Scrape.Survey

/-!
# Queues of the dispatcher

Every instance that runs a dispatcher reports the queues of its work
processes.
-/

namespace SapMonitor.Scrape.Queues

open Series (Catalog Sample)
open Landscape (Member WatchedProcess)
open Remote (Queue)

/-- The labels of queues. -/
def labels : List String :=
  "type" :: Landscape.sharedLabelNames

/-- The metrics of queues. -/
def catalog : Catalog :=
  (((((Catalog.empty "dispatcher").insert "queue_now" "Work process current queue length"
    labels).insert "queue_high" "Work process peak queue length"
    labels).insert "queue_max" "Work process maximum queue length"
    labels).insert "queue_writes" "Work process queue writes"
    labels).insert "queue_reads" "Work process queue reads" labels

/-- The samples of a queue. -/
def queueSamples (m : Member) (q : Queue) : List Sample :=
  let values := withCommon [q.type] m.sharedLabels
  [.gauge "queue_now" (Float.ofInt q.now) values,
    .counter "queue_high" (Float.ofInt q.high) values,
    .gauge "queue_max" (Float.ofInt q.max) values,
    .counter "queue_writes" (Float.ofInt q.writes) values,
    .counter "queue_reads" (Float.ofInt q.reads) values]

/-- Whether a dispatcher is among the processes. -/
def hasDispatcher (ps : List WatchedProcess) : Bool :=
  ps.any fun p => Text.contains p.listed.name "disp+work"

variable {σ : Type}

/-- Asks an instance for its queues if it runs a dispatcher. -/
def visit (s : MonitoredSystem σ) (d : Deadline) (m : Member) : Watch σ (List Sample) := do
  match ← s.processes d m.endpoint with
  | .error e => skip ("GetProcessList error, instance " ++ m.endpoint ++ ": " ++ e.message)
  | .ok ps =>
    if hasDispatcher ps then
      match ← (s.service.queues d m.endpoint : Work σ _) with
      | .error e => skip ("GetQueueStatistic error, instance " ++ m.endpoint ++ ": " ++ e.message)
      | .ok queues => return queues.flatMap (queueSamples m)
    else return []

/-- The collector of queues. -/
def collector (s : MonitoredSystem σ) : Collector σ :=
  { name := catalog.subsystem
    collect := survey s catalog "recordWorkProcessQueueStats collector error" (fun _ => true)
      (visit s) }

end SapMonitor.Scrape.Queues
