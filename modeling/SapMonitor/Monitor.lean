import SapMonitor.Cache.Expiring
import SapMonitor.LogStore.Streams
import SapMonitor.Landscape.Directory
import SapMonitor.Landscape.Processes

/-!
# The memory of the monitor

Between scrapes the monitor remembers the directory, the process lists, the
system id and the log lines that wait.  A watch is work that has this memory at
hand.  The directory and the process lists are read through caches; a failure is
remembered too, for a shorter time.  A read can be lost, together with whoever made it; to
the collectors that is one more failure.

Main results:

- `MonitoredSystem.directory` and `MonitoredSystem.processes`: the two cached reads.
-/

namespace SapMonitor

open Cache (ExpiringCache Counters)
open Time (Span)
open Landscape (Directory Policy SystemId WatchedProcess)
open Remote (RemoteError ControlService Outcome)

/-! ## Memory -/

/-- What is remembered between scrapes.  A cached value that is missing stands
for a failure. -/
structure Memory where
  directories : ExpiringCache (Option Directory) := .empty "instances"
  processes : ExpiringCache (Option (List WatchedProcess)) := .empty "processes"
  systemId : SystemId := {}
  pending : LogStore.Pending := {}

/-- Work with the memory at hand. -/
abbrev Watch (σ : Type) := StateT Memory (Work σ)

namespace Watch

variable {σ α β : Type}

theorem pure_run (a : α) (m : Memory) (w : World σ) : (pure a : Watch σ α) m w = ((a, m), w) :=
  rfl

theorem bind_run (x : Watch σ α) (k : α → Watch σ β) (m : Memory) (w : World σ) :
    (x >>= k) m w = k (x m w).1.1 (x m w).1.2 (x m w).2 :=
  rfl

theorem get_run (m : Memory) (w : World σ) : (get : Watch σ Memory) m w = ((m, m), w) :=
  rfl

theorem lift_run (x : Work σ α) (m : Memory) (w : World σ) :
    (liftM x : Watch σ α) m w = (((x w).1, m), (x w).2) :=
  rfl

end Watch

/-! ## Shelves -/

/-- A cache in the memory: how it is looked at, and how it is replaced. -/
structure Shelf (ν : Type) where
  get : Memory → ExpiringCache ν
  set : ExpiringCache ν → Memory → Memory
  get_set : ∀ c m, get (set c m) = c
  set_get : ∀ m, set (get m) m = m

attribute [simp] Shelf.get_set Shelf.set_get

/-- Works on the cache of a shelf. -/
def Shelf.on {ν α : Type} (shelf : Shelf ν) (f : ExpiringCache ν → α × ExpiringCache ν)
    (m : Memory) : α × Memory :=
  ((f (shelf.get m)).1, shelf.set (f (shelf.get m)).2 m)

theorem Watch.on_run {σ ν α : Type} (shelf : Shelf ν) (f : ExpiringCache ν → α × ExpiringCache ν)
    (m : Memory) (w : World σ) :
    (modifyGet (shelf.on f) : Watch σ α) m w =
      (((f (shelf.get m)).1, shelf.set (f (shelf.get m)).2 m), w) :=
  rfl

/-- The cache of the directory. -/
def Memory.directoryShelf : Shelf (Option Directory) where
  get := directories
  set c m := { m with directories := c }
  get_set _ _ := rfl
  set_get _ := rfl

/-- The cache of the process lists. -/
def Memory.processShelf : Shelf (Option (List WatchedProcess)) where
  get := processes
  set c m := { m with processes := c }
  get_set _ _ := rfl
  set_get _ := rfl

/-- Works on the cache of the directory. -/
def Memory.onDirectories {α : Type}
    (f : ExpiringCache (Option Directory) → α × ExpiringCache (Option Directory)) (m : Memory) :
    α × Memory :=
  directoryShelf.on f m

/-- Works on the cache of the process lists. -/
def Memory.onProcesses {α : Type}
    (f : ExpiringCache (Option (List WatchedProcess)) →
      α × ExpiringCache (Option (List WatchedProcess))) (m : Memory) : α × Memory :=
  processShelf.on f m

/-! ## Reports and sweeps -/

/-- The size and the counters of a cache. -/
structure CacheSummary where
  cache : String
  entries : Nat
  counters : Counters

/-- The report on a cache. -/
def CacheSummary.ofCache {ν : Type} (c : ExpiringCache ν) : CacheSummary :=
  ⟨c.name, c.size, c.counters⟩

namespace Memory

/-- The memory at the start. -/
def ofSystemId (id : String) : Memory :=
  { systemId := .ofSetting id }

/-- The reports on the caches. -/
def reports (m : Memory) : List CacheSummary :=
  [.ofCache m.directories, .ofCache m.processes]

/-- Sweeps dead entries out of both caches and tells how many there were. -/
def purge (now : Nat) (m : Memory) : Nat × Memory :=
  let (a, m) := m.onDirectories fun c => c.purge now
  let (b, m) := m.onProcesses fun c => c.purge now
  (a + b, m)

/-- Works on the lines that wait. -/
def onPending {α : Type} (f : LogStore.Pending → α × LogStore.Pending) (m : Memory) : α × Memory :=
  ((f m.pending).1, { m with pending := (f m.pending).2 })

end Memory

/-- When sweeps happen that begin one interval after the start and end before
the end of a span. -/
def sweepTimes (start every run : Nat) : List Nat :=
  if every = 0 then []
  else (List.range ((run - 1) / every)).map fun k => start + every * (k + 1)

namespace Memory

variable {σ : Type}

/-- Sweeps both caches now. -/
def sweep : Watch σ Nat := do
  let now ← (Work.now : Work σ Nat)
  modifyGet (purge now)

/-- Sweeps both caches at several times. -/
def sweepAt : List Nat → Watch σ Unit
  | [] => pure ()
  | t :: ts => do
    (Work.setClock t : Work σ Unit)
    let _ ← sweep
    sweepAt ts

/-- Sweeps both caches at intervals for a while. -/
def cleanUp (every run : Span) : Watch σ Unit := do
  let start ← (Work.now : Work σ Nat)
  sweepAt (sweepTimes start every.nanos run.nanos)
  (Work.setClock (start + run.nanos) : Work σ Unit)

end Memory

/-! ## Cached reads -/

/-- What is remembered of an outcome, and for how long: of a failure nothing but
that it happened, for the shorter time. -/
def Landscape.Policy.remember {α : Type} (p : Policy) : Outcome α → Option α × Span
  | .ok a => (some a, p.lifetime)
  | .error _ => (none, p.errorLifetime)

/-- A read through the cache of a shelf: under which key its outcome is remembered, how a
failure is worded in the journal and to readers, and what is asked if nothing is
remembered.  Whoever asks leaves the cache alone, and can be lost. -/
structure CachedRead (σ : Type) {α : Type} (shelf : Shelf (Option α)) where
  key : String
  operation : String
  absence : String
  ask : Watch σ (Option (Outcome α))
  keeps : ∀ m w, shelf.get (ask m w).1.2 = shelf.get m

namespace CachedRead

variable {σ α : Type} {shelf : Shelf (Option α)}

/-- Notes a failure. -/
def noteFailure (r : CachedRead σ shelf) : Outcome α → Work σ Unit
  | .ok _ => pure ()
  | .error e => Work.complain (r.operation ++ ": " ++ e.message)

/-- Asks, and tells what to remember. -/
def populate (r : CachedRead σ shelf) (p : Policy) : Watch σ (Option (Option α × Span)) := do
  match ← r.ask with
  | none => return none
  | some outcome =>
    (r.noteFailure outcome : Work σ Unit)
    return some (p.remember outcome)

/-- What a reader is told about what is remembered. -/
def reply (r : CachedRead σ shelf) : Option α → Outcome α
  | some a => .ok a
  | none => .error (.unavailable (r.operation ++ ": " ++ r.absence))

/-- What is remembered, or asked for; nothing if the read is lost. -/
def read (r : CachedRead σ shelf) (p : Policy) : Watch σ (Option (Outcome α)) := do
  let found ← ExpiringCache.fetch (fun f => modifyGet (shelf.on f))
    (Work.now : Work σ Nat) r.key (r.populate p)
  return found.map r.reply

/-- What stands for a read that is lost. -/
def lostRead : RemoteError :=
  .request "cached read did not finish"

/-- The outcome of a read; one that is lost has failed. -/
def outcome (r : CachedRead σ shelf) (p : Policy) : Watch σ (Outcome α) := do
  return (← r.read p).getD (.error lostRead)

end CachedRead

/-- The access to a monitored system: its web service and how it is read. -/
structure MonitoredSystem (σ : Type) where
  service : ControlService σ
  policy : Policy

namespace MonitoredSystem

variable {σ : Type}

/-- The key of the directory. -/
def directoryKey : String := "InstanceInfo"

/-- Asks for the directory, and keeps the system id that it shows. -/
def askDirectory (s : MonitoredSystem σ) (d : Deadline) : Watch σ (Option (Outcome Directory)) := do
  let id := (← get).systemId
  match ← (Landscape.populate s.service s.policy d id : Work σ _) with
  | some (.ok (directory, id)) =>
    modify fun m => { m with systemId := id }
    return some (.ok directory)
  | some (.error e) => return some (.error e)
  | none => return none

theorem askDirectory_of_ok {s : MonitoredSystem σ} {d : Deadline} {m : Memory} {w w' : World σ}
    {directory : Directory} {id : SystemId}
    (h : Landscape.populate s.service s.policy d m.systemId w = (some (.ok (directory, id)), w')) :
    s.askDirectory d m w = ((some (.ok directory), { m with systemId := id }), w') := by
  simp only [askDirectory, Watch.bind_run, Watch.get_run, Watch.lift_run, h]
  rfl

theorem askDirectory_of_error {s : MonitoredSystem σ} {d : Deadline} {m : Memory} {w w' : World σ}
    {e : RemoteError}
    (h : Landscape.populate s.service s.policy d m.systemId w = (some (.error e), w')) :
    s.askDirectory d m w = ((some (.error e), m), w') := by
  simp only [askDirectory, Watch.bind_run, Watch.get_run, Watch.lift_run, h]
  rfl

theorem askDirectory_of_lost {s : MonitoredSystem σ} {d : Deadline} {m : Memory} {w w' : World σ}
    (h : Landscape.populate s.service s.policy d m.systemId w = (none, w')) :
    s.askDirectory d m w = ((none, m), w') := by
  simp only [askDirectory, Watch.bind_run, Watch.get_run, Watch.lift_run, h]
  rfl

/-- Asking for the directory changes nothing in the memory but the system id. -/
theorem memory_askDirectory (s : MonitoredSystem σ) (d : Deadline) (m : Memory) (w : World σ) :
    ∃ id, (s.askDirectory d m w).1.2 = { m with systemId := id } := by
  cases h : Landscape.populate s.service s.policy d m.systemId w with
  | mk outcome w' =>
    rcases outcome with _ | (e | found)
    · refine ⟨m.systemId, ?_⟩
      rw [askDirectory_of_lost h]
    · refine ⟨m.systemId, ?_⟩
      rw [askDirectory_of_error h]
    · refine ⟨found.2, ?_⟩
      rw [askDirectory_of_ok h]

/-- The read of the directory. -/
def directoryRead (s : MonitoredSystem σ) (d : Deadline) : CachedRead σ Memory.directoryShelf where
  key := directoryKey
  operation := "GetCachedInstanceList"
  absence := "instance list unavailable"
  ask := s.askDirectory d
  keeps m w := by
    obtain ⟨id, h⟩ := s.memory_askDirectory d m w
    rw [h]
    rfl

/-- The directory, from the cache or populated. -/
def directory (s : MonitoredSystem σ) (d : Deadline) : Watch σ (Outcome Directory) :=
  (s.directoryRead d).outcome s.policy

/-- The read of the process list of an instance. -/
def processRead (s : MonitoredSystem σ) (d : Deadline) (endpoint : String) :
    CachedRead σ Memory.processShelf where
  key := Landscape.processKey endpoint
  operation := "GetCachedProcessList"
  absence := "no process list for " ++ endpoint
  ask := do
    let outcome ← (Landscape.readProcesses s.service d endpoint : Work σ _)
    return some outcome
  keeps _ _ := rfl

/-- The process list of an instance, from the cache or populated. -/
def processes (s : MonitoredSystem σ) (d : Deadline) (endpoint : String) :
    Watch σ (Outcome (List WatchedProcess)) :=
  (s.processRead d endpoint).outcome s.policy

end MonitoredSystem

end SapMonitor
