import SapMonitor.Proofs.Landscape.Population
import SapMonitor.Proofs.Monitor.Freshness
import SapMonitor.Url.Latin

/-!
# The protected service

A monitored system with validated settings reads through two caches, one for the
directory and one for the process lists.  Both protect the service: it is asked at most
once for a key while an answer, or a failure, lives.  Both are reliable, and a reader of
the process list of an instance is told nothing but what the service said about that
instance.

Main results:

- `MonitoredSystem.told_of_key`: a reader of a process list is told what the service said
  about its instance.
- `watched_listed`: a process list keeps the order of the service.
- `protected_of_validate`: what validated settings give.
- `unprotected_of_endless`: validated settings that protect the service no more, as the
  clock cannot tell how long an answer is remembered.
-/

namespace SapMonitor

open Cache (Meeting Step)
open Cache.Meeting (Readers)
open Landscape (Policy WatchedProcess processKey watched)
open Remote (ControlService OsProcess Outcome StateColor)

/-! ## Process lists -/

/-- A process list keeps the order of the service, and shows each process with the number of
its colour, or zero. -/
theorem Landscape.watched_listed (ps : List OsProcess) :
    (watched ps).map WatchedProcess.listed = ps ∧
      ∀ x ∈ watched ps, x.status =
        match StateColor.read? x.listed.dispstatus with
        | some c => c.value
        | none => 0 := by
  constructor
  · rw [watched, List.map_map]
    exact List.map_id ps
  · intro x hx
    rcases List.mem_map.1 hx with ⟨p, -, rfl⟩
    rfl

theorem Landscape.processKey_injective {a b : String} (h : processKey a = processKey b) : a = b :=
  (String.append_right_inj _).1 h

/-- What a reader of the process list of an instance is told of what the service said. -/
def toldProcesses (endpoint : String) : Outcome (List OsProcess) → Outcome (List WatchedProcess)
  | .ok listed => .ok (watched listed)
  | .error _ =>
    .error (.unavailable ("GetCachedProcessList" ++ ": " ++ ("no process list for " ++ endpoint)))

namespace MonitoredSystem

variable {σ : Type} {s : MonitoredSystem σ}

/-- A reader is told what the service said when it was asked for the list. -/
theorem reply_processRead (s : MonitoredSystem σ) (d d' : Deadline) (endpoint : String)
    {m : Memory} {w : World σ} {o : Outcome (List WatchedProcess)}
    (ho : ((s.processRead d' endpoint).ask m w).1.1 = some o) :
    (s.processRead d endpoint).reply (s.policy.remember o).1 =
      toldProcesses endpoint (s.service.processes d' endpoint w).1 := by
  rw [outcome_processRead] at ho
  obtain rfl := Option.some.inj ho
  cases (s.service.processes d' endpoint w).1 <;> rfl

/-- What is asked under the key of an instance is asked about that instance. -/
theorem told_of_key {k : Deadline × String} {endpoint : String}
    (hkey : (s.processReads k).key = processKey endpoint) (d : Deadline) {m : Memory}
    {w : World σ} {o : Outcome (List WatchedProcess)}
    (ho : ((s.processReads k).ask m w).1.1 = some o) :
    (s.processRead d endpoint).reply (s.policy.remember o).1 =
      toldProcesses endpoint (s.service.processes k.1 endpoint w).1 := by
  rcases k with ⟨d', endpoint'⟩
  obtain rfl : endpoint' = endpoint := Landscape.processKey_injective hkey
  exact s.reply_processRead d d' endpoint' ho

end MonitoredSystem

/-! ## Protection -/

/-- The caches of a memory have no entries. -/
structure Memory.IsFresh (m : Memory) : Prop where
  directories : m.directories = .empty "instances"
  processes : m.processes = .empty "processes"

/-- The service of a monitored system is protected by its caches. -/
structure Protected {σ : Type} (s : MonitoredSystem σ) : Prop where
  /-- Readers of the directory, whenever they come, can rely on it. -/
  directory : CachedRead.Reliable s.policy "instances" s.directoryRead
  /-- So can readers of process lists. -/
  processes : CachedRead.Reliable s.policy "processes" s.processReads
  /-- Reads of the directory are fresh between visits. -/
  directoryVisits : Fresh s s.directoryRead .directory
  /-- So are reads of process lists. -/
  processVisits : Fresh s s.processReads fun k => .processes k.1 k.2
  /-- No visits leave an entry that lives forever. -/
  ends : ∀ visits x, x.1.IsFresh → Visit.Forward s visits x → ∀ key,
    (∀ entry, (key, entry) ∈ (Visit.after s visits x).1.directories.entries →
      entry.ending.isSome = true) ∧
    ∀ entry, (key, entry) ∈ (Visit.after s visits x).1.processes.entries →
      entry.ending.isSome = true
  /-- Whoever fetched the process list of an instance was told what the service said about
  that instance. -/
  answered : ∀ start history e,
    Readers (CachedRead.Feeds s.policy s.processReads) "processes" start history e →
    ∀ i endpoint b d, e.request? i = some (.fetch (processKey endpoint)) →
      e.answer? i = some b →
      ∃ d' w, b.value?.map (s.processRead d endpoint).reply =
        some (toldProcesses endpoint (s.service.processes d' endpoint w).1)
  /-- Whoever reads it after any visits is told that, if the read is not lost. -/
  told : ∀ visits x, x.1.IsFresh → Visit.Forward s visits x → ∀ d endpoint a,
    ((s.processRead d endpoint).read s.policy (Visit.after s visits x).1
        (Visit.after s visits x).2).1.1 = some a →
    ∃ d' w, a = toldProcesses endpoint (s.service.processes d' endpoint w).1
  /-- A process list keeps the order of the service. -/
  listed : ∀ ps : List OsProcess, (watched ps).map WatchedProcess.listed = ps ∧
    ∀ x ∈ watched ps, x.status =
      match StateColor.read? x.listed.dispstatus with
      | some c => c.value
      | none => 0

/-- Bounded lifetimes protect the service. -/
theorem protected_of_bounded {σ : Type} {s : MonitoredSystem σ} (hp : s.policy.Bounded) :
    Protected s where
  directory := CachedRead.reliable_of_bounded hp "instances" s.directoryRead
  processes := CachedRead.reliable_of_bounded hp "processes" s.processReads
  directoryVisits := s.frequented_directories.fresh_of_bounded hp
  processVisits := s.frequented_processes.fresh_of_bounded hp
  ends visits x hx hforward key := by
    constructor
    · intro entry hentry
      obtain ⟨history, e, hreaders, hcache, -⟩ :=
        s.frequented_directories.reached hx.directories hforward
      change (key, entry) ∈ (Memory.directoryShelf.get _).entries at hentry
      rw [hcache] at hentry
      exact (CachedRead.reliable_of_bounded hp _ _).ends _ history e hreaders key entry hentry
    · intro entry hentry
      obtain ⟨history, e, hreaders, hcache, -⟩ :=
        s.frequented_processes.reached hx.processes hforward
      change (key, entry) ∈ (Memory.processShelf.get _).entries at hentry
      rw [hcache] at hentry
      exact (CachedRead.reliable_of_bounded hp _ _).ends _ history e hreaders key entry hentry
  answered start history e h i endpoint b d hr hb := by
    obtain ⟨k, m, w, o, hkey, hasked, hvalue⟩ :=
      (CachedRead.reliable_of_bounded hp _ _).answered start history e h i _ b hr hb
    refine ⟨k.1, w, ?_⟩
    rw [hvalue, Option.map_some, MonitoredSystem.told_of_key hkey d hasked]
  told visits x hx hforward d endpoint a ha := by
    obtain ⟨history, e, hreaders, hcache, htime⟩ :=
      s.frequented_processes.reached hx.processes hforward
    obtain ⟨k, m, w, o, hkey, hasked, hread⟩ := (CachedRead.reliable_of_bounded hp _ _).read _
      history e hreaders (d, endpoint) _ (Visit.after s visits x).2 a hcache htime ha
    refine ⟨k.1, w, ?_⟩
    rw [← MonitoredSystem.told_of_key hkey d hasked]
    exact hread
  listed := Landscape.watched_listed

/-- Validated settings bound the lifetimes of what is cached, and protect every service. -/
theorem protected_of_validate {idna : Url.Idna} {raw s : Settings} {notes : List Note}
    (h : raw.validate idna = .ok (s, notes)) :
    0 < (Policy.ofSettings s).errorLifetime.nanos ∧
      (Policy.ofSettings s).errorLifetime.nanos ≤ (Policy.ofSettings s).lifetime.nanos ∧
      ∀ {σ : Type} (service : ControlService σ), Protected ⟨service, .ofSettings s⟩ := by
  have hp := Policy.bounded_of_validate h
  refine ⟨hp.pos, hp.le, ?_⟩
  intro σ service
  exact protected_of_bounded hp

/-- Settings under which a failure would be remembered for longer than an answer, which
would be remembered forever. -/
def hastySettings : Settings :=
  { sapControlUrl := "a.b:1", cacheTtl := .zero, cacheErrorTtl := .ofSeconds 90 }

/-- These settings after validation. -/
def repairedSettings : Settings :=
  { sapControlUrl := "http://a.b:1", hostDomain := "b", sapHost := "a.b", sapPort := 1,
    cacheTtl := .ofSeconds 30, cacheErrorTtl := .ofSeconds 30 }

theorem protected_of_hasty :
    hastySettings.validate .latin = .ok (repairedSettings, []) ∧
      0 < (Policy.ofSettings repairedSettings).errorLifetime.nanos ∧
      (Policy.ofSettings repairedSettings).errorLifetime.nanos ≤
        (Policy.ofSettings repairedSettings).lifetime.nanos ∧
      ∀ {σ : Type} (service : ControlService σ),
        Protected ⟨service, .ofSettings repairedSettings⟩ := by
  have h : hastySettings.validate .latin = .ok (repairedSettings, []) := rfl
  exact ⟨h, protected_of_validate h⟩

/-- Settings under which an answer would be remembered beyond the end of the clock. -/
def endlessSettings : Settings :=
  { sapControlUrl := "http://a.b:1", hostDomain := "b", sapHost := "a.b", sapPort := 1,
    cacheTtl := .ofSeconds 10000000000000000000 }

/-- A service that counts how often it is asked for processes. -/
def countingService : ControlService Nat :=
  { Landscape.loneService Nat with
    processes := fun _ _ => do
      Work.ask fun count => ((), count + 1)
      return .ok [] }

/-- A read of a process list with these settings. -/
def endlessRead : CachedRead Nat Memory.processShelf :=
  (MonitoredSystem.mk countingService (.ofSettings endlessSettings)).processRead ⟨1⟩ "http://a.b:1"

/-- The service answers, but nothing is remembered of that: the next read, at the same time,
asks again. -/
theorem unprotected_of_endless :
    endlessSettings.validate .latin = .ok (endlessSettings, []) ∧
      (endlessRead.ask {} ⟨0, [], 0⟩).1.1 = some (.ok []) ∧
      let first := endlessRead.read (.ofSettings endlessSettings) {} ⟨0, [], 0⟩
      let second := endlessRead.read (.ofSettings endlessSettings) first.1.2 first.2
      first.2.clock = 0 ∧ first.2.peer = 1 ∧ second.2.clock = 0 ∧ second.2.peer = 2 := by
  refine ⟨rfl, rfl, ?_⟩
  exact ⟨rfl, rfl, rfl, rfl⟩

end SapMonitor
