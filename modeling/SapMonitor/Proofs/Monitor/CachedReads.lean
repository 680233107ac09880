import SapMonitor.Monitor

/-!
# Cached reads

A read that finds something live returns what it says and leaves the world
as it is.  Any other read asks, while the key is claimed, and stores what is
remembered of the outcome when the outcome is there.  It stores nothing, and is lost, if
asking is lost or if the clock cannot tell how long the outcome is remembered.

Main results:

- `CachedRead.read_of_live` and `CachedRead.read_of_dead`: the two courses of a read.
- `CachedRead.Asks.of_fits`: a read that asks returns what is remembered of the outcome.
-/

namespace SapMonitor

open Cache (ExpiringCache)
open Landscape (Policy)
open Remote (Outcome)
open Time (Span)

/-! ## What is kept -/

namespace Landscape.Policy

variable {α : Type}

/-- The outcome that is remembered from a time on, if there is one and the clock can tell how
long. -/
def kept (p : Policy) (o : Option (Outcome α)) (now : Nat) : Option (Outcome α) :=
  o.filter fun o => (p.remember o).2.fits now

theorem kept_eq_some {p : Policy} {o : Option (Outcome α)} {now : Nat} {a : Outcome α} :
    p.kept o now = some a ↔ o = some a ∧ (p.remember a).2.fits now = true :=
  Option.filter_eq_some_iff

theorem kept_of_fits {p : Policy} {now : Nat} {a : Outcome α}
    (h : (p.remember a).2.fits now = true) : p.kept (some a) now = some a :=
  kept_eq_some.2 ⟨rfl, h⟩

end Landscape.Policy

/-! ## The two courses of a read -/

namespace CachedRead

variable {σ α : Type} {shelf : Shelf (Option α)}

/-- The memory while a read asks. -/
def asking (r : CachedRead σ shelf) (m : Memory) (now : Nat) : Memory :=
  shelf.set ((shelf.get m).claim r.key now).2 m

/-- What comes of asking when nothing live is remembered. -/
def upstream (r : CachedRead σ shelf) (m : Memory) (w : World σ) :
    (Option (Outcome α) × Memory) × World σ :=
  r.ask (r.asking m w.clock) w

/-- The cache after a key was claimed and an outcome, if any, is kept. -/
def refill (r : CachedRead σ shelf) (p : Policy) (c : ExpiringCache (Option α)) (now : Nat)
    (kept : Option (Outcome α)) (later : Nat) : ExpiringCache (Option α) :=
  match kept with
  | some o =>
    (c.claim r.key now).2.store r.key (p.remember o).1 (p.remember o).2 later
      (c.find? r.key).isSome
  | none => (c.claim r.key now).2

/-- What a reader is told about an outcome that is kept. -/
def tell (r : CachedRead σ shelf) (p : Policy) (kept : Option (Outcome α)) : Option (Outcome α) :=
  kept.map fun o => r.reply (p.remember o).1

/-- What an outcome fills a key with is told and stored if it is kept. -/
theorem fill_remember (r : CachedRead σ shelf) (p : Policy) (c : ExpiringCache (Option α))
    (o : Option (Outcome α)) (now later : Nat) :
    let filled := (c.claim r.key now).2.fill r.key (o.map p.remember) later (c.find? r.key).isSome
    filled.1.map r.reply = r.tell p (p.kept o later) ∧
      filled.2 = r.refill p c now (p.kept o later) later := by
  cases o with
  | none => exact ⟨rfl, rfl⟩
  | some o =>
    cases h : (p.remember o).2.fits later with
    | true =>
      rw [Policy.kept_of_fits h, Option.map_some, ExpiringCache.fill_of_fits h]
      exact ⟨rfl, rfl⟩
    | false =>
      have hkept : p.kept (some o) later = none := by rw [Policy.kept, Option.filter_some, h]; rfl
      rw [hkept, Option.map_some, ExpiringCache.fill_of_not_fits h]
      exact ⟨rfl, rfl⟩

/-- Notes take no time. -/
theorem clock_noteFailure (r : CachedRead σ shelf) (o : Outcome α) (w : World σ) :
    (r.noteFailure o w).2.clock = w.clock := by
  cases o <;> rfl

/-- Notes do not reach the peer. -/
theorem peer_noteFailure (r : CachedRead σ shelf) (o : Outcome α) (w : World σ) :
    (r.noteFailure o w).2.peer = w.peer := by
  cases o <;> rfl

/-- What is live is returned, and nobody is asked. -/
theorem read_of_live {r : CachedRead σ shelf} {p : Policy} {m : Memory} {w : World σ}
    {v : Option α} (h : (shelf.get m).live? r.key w.clock = some v) :
    r.read p m w = ((some (r.reply v), shelf.set (shelf.get m).countHit m), w) := by
  simp only [read, ExpiringCache.fetch, Watch.bind_run, Watch.pure_run, Watch.lift_run, Work.now_run,
    Watch.on_run, ExpiringCache.look_of_live h, Option.map_some]

/-- Asking, with a note on a failure. -/
theorem populate_run (r : CachedRead σ shelf) (p : Policy) (m : Memory) (w : World σ) :
    ∃ w', w'.clock = (r.ask m w).2.clock ∧ w'.peer = (r.ask m w).2.peer ∧
      r.populate p m w = (((r.ask m w).1.1.map p.remember, (r.ask m w).1.2), w') := by
  simp only [populate, Watch.bind_run]
  cases h : (r.ask m w).1.1 with
  | none => exact ⟨_, rfl, rfl, rfl⟩
  | some o => exact ⟨_, r.clock_noteFailure o _, r.peer_noteFailure o _, rfl⟩

/-- What is not live is asked for, while the key is claimed, and stored when it is there. -/
theorem read_of_dead {r : CachedRead σ shelf} (p : Policy) {m : Memory} {w : World σ}
    (h : (shelf.get m).live? r.key w.clock = none) :
    ∃ w', w'.clock = (r.upstream m w).2.clock ∧ w'.peer = (r.upstream m w).2.peer ∧
      r.read p m w =
        ((r.tell p (p.kept (r.upstream m w).1.1 w'.clock),
          shelf.set (r.refill p (shelf.get m) w.clock (p.kept (r.upstream m w).1.1 w'.clock)
            w'.clock) (r.upstream m w).1.2), w') := by
  obtain ⟨w', hclock, hpeer, hpopulate⟩ := r.populate_run p (r.asking m w.clock) w
  refine ⟨w', hclock, hpeer, ?_⟩
  have hkept : shelf.get (r.upstream m w).1.2 = ((shelf.get m).claim r.key w.clock).2 := by
    rw [upstream, r.keeps, asking, shelf.get_set]
  obtain ⟨htell, hrefill⟩ :=
    r.fill_remember p (shelf.get m) (r.upstream m w).1.1 w.clock w'.clock
  rw [← hkept] at htell hrefill
  have hclaim : ((shelf.get m).claim r.key w.clock).1 =
      if ((shelf.get m).find? r.key).isSome then .stale else .vacant := by
    rw [ExpiringCache.claim_of_dead h]
    split <;> rfl
  simp only [read, ExpiringCache.fetch, Watch.bind_run, Watch.pure_run, Watch.lift_run, Work.now_run,
    Watch.on_run, ExpiringCache.look_of_dead h, shelf.set_get]
  rw [hclaim, ← htell, ← hrefill]
  change r.populate p (shelf.set _ m) w = _ at hpopulate
  cases ((shelf.get m).find? r.key).isSome <;>
    simp only [Bool.false_eq_true, ↓reduceIte, Watch.bind_run, Watch.lift_run, Work.now_run,
      Watch.on_run, hpopulate] <;> rfl

/-- Any outcome but that of a lost read is the outcome of the read itself. -/
theorem read_of_outcome {r : CachedRead σ shelf} {p : Policy} {m : Memory} {w : World σ}
    {o : Outcome α} (h : (r.outcome p m w).1.1 = o) (hne : o ≠ .error lostRead) :
    (r.read p m w).1.1 = some o := by
  change (r.read p m w).1.1.getD (.error lostRead) = o at h
  cases hread : (r.read p m w).1.1 with
  | some a =>
    rw [hread] at h
    exact congrArg some h
  | none =>
    rw [hread] at h
    exact absurd h.symm hne

/-- A read changes nothing that neither asking nor storing changes. -/
theorem read_elsewhere {β : Type} {r : CachedRead σ shelf} {p : Policy} {place : Memory → β}
    (hset : ∀ c m, place (shelf.set c m) = place m)
    (hask : ∀ m w, place (r.ask m w).1.2 = place m) (m : Memory) (w : World σ) :
    place (r.read p m w).1.2 = place m := by
  cases h : (shelf.get m).live? r.key w.clock with
  | some v => rw [read_of_live h, hset]
  | none =>
    rcases read_of_dead p h with ⟨w', -, -, hread⟩
    rw [hread, hset, upstream, hask, asking, hset]

/-- What is kept changes what is live under its own key only. -/
theorem live?_refill_of_ne {r : CachedRead σ shelf} {key : String} (hkey : key ≠ r.key) (p : Policy)
    (c : ExpiringCache (Option α)) (now : Nat) (kept : Option (Outcome α)) (later n : Nat) :
    (r.refill p c now kept later).live? key n = c.live? key n := by
  cases kept with
  | none => exact ExpiringCache.live?_of_entries (ExpiringCache.entries_claim _ _ _) key n
  | some o =>
    rw [refill, ExpiringCache.live?_store_of_ne _ hkey]
    exact ExpiringCache.live?_of_entries (ExpiringCache.entries_claim _ _ _) key n

/-- A read leaves what is live under other keys. -/
theorem live?_read_of_ne {r : CachedRead σ shelf} {key : String} (hkey : key ≠ r.key) (p : Policy)
    (m : Memory) (w : World σ) (n : Nat) :
    (shelf.get (r.read p m w).1.2).live? key n = (shelf.get m).live? key n := by
  cases h : (shelf.get m).live? r.key w.clock with
  | some v =>
    rw [read_of_live h, shelf.get_set]
    rfl
  | none =>
    rcases read_of_dead p h with ⟨w', -, -, hread⟩
    rw [hread, shelf.get_set, live?_refill_of_ne hkey]

/-- A read that asks leaves what is remembered of an outcome that is kept. -/
theorem live?_read_of_dead {r : CachedRead σ shelf} {p : Policy} {m : Memory} {w : World σ}
    {o : Outcome α} (h : (shelf.get m).live? r.key w.clock = none)
    (ho : (r.upstream m w).1.1 = some o)
    (hfits : (p.remember o).2.fits (r.read p m w).2.clock = true) (n : Nat) :
    (shelf.get (r.read p m w).1.2).live? r.key n =
      if (Cache.Entry.ofPopulation (p.remember o).1 (p.remember o).2
        (r.read p m w).2.clock).isLive n
      then some (p.remember o).1 else none := by
  rcases read_of_dead p h with ⟨w', -, -, hread⟩
  rw [hread] at hfits ⊢
  rw [ho, Policy.kept_of_fits hfits, shelf.get_set]
  exact ExpiringCache.live?_store_self _ _ _ _ _ _ _

/-! ## Served or asked -/

/-- A read that is served from the cache: it returns an outcome, and nothing happens but
that a hit is counted. -/
def Served (r : CachedRead σ shelf) (p : Policy) (m : Memory) (w : World σ) (o : Outcome α) : Prop :=
  r.read p m w = ((some o, shelf.set (shelf.get m).countHit m), w)

/-- A read that asks: it returns what is remembered of an outcome that is kept, or else it is
lost, and whoever was asked knows. -/
structure Asks (r : CachedRead σ shelf) (p : Policy) (m : Memory) (w : World σ) : Prop where
  answer : (r.read p m w).1.1 =
    r.tell p (p.kept (r.upstream m w).1.1 (r.read p m w).2.clock)
  clock : (r.read p m w).2.clock = (r.upstream m w).2.clock
  peer : (r.read p m w).2.peer = (r.upstream m w).2.peer

/-- A read of a key that shows something is served. -/
theorem served_of_live {r : CachedRead σ shelf} (p : Policy) {m : Memory} {w : World σ}
    {v : Option α} (h : (shelf.get m).live? r.key w.clock = some v) : r.Served p m w (r.reply v) :=
  read_of_live h

/-- A read of any other key asks. -/
theorem asks_of_dead {r : CachedRead σ shelf} (p : Policy) {m : Memory} {w : World σ}
    (h : (shelf.get m).live? r.key w.clock = none) : r.Asks p m w := by
  rcases read_of_dead p h with ⟨w', hclock, hpeer, hread⟩
  constructor
  · rw [hread]
  · rw [hread]
    exact hclock
  · rw [hread]
    exact hpeer

/-- A read that asks returns what is remembered of the outcome, if the clock can tell how
long. -/
theorem Asks.of_fits {r : CachedRead σ shelf} {p : Policy} {m : Memory} {w : World σ}
    {o : Outcome α} (h : r.Asks p m w) (ho : (r.upstream m w).1.1 = some o)
    (hfits : (p.remember o).2.fits (r.read p m w).2.clock = true) :
    (r.read p m w).1.1 = some (r.reply (p.remember o).1) := by
  rw [h.answer, ho, Policy.kept_of_fits hfits]
  rfl

/-- Whatever a read that asks returns was asked for and is kept. -/
theorem Asks.exists_kept {r : CachedRead σ shelf} {p : Policy} {m : Memory} {w : World σ}
    {a : Outcome α} (h : r.Asks p m w) (ha : (r.read p m w).1.1 = some a) :
    ∃ o, (r.upstream m w).1.1 = some o ∧ a = r.reply (p.remember o).1 := by
  rw [h.answer] at ha
  obtain ⟨o, hkept, rfl⟩ := Option.map_eq_some_iff.1 ha
  exact ⟨o, (Policy.kept_eq_some.1 hkept).1, rfl⟩

/-! ## What feeds the keys -/

/-- What the keys of some reads are populated with: what is remembered of the outcomes that
these reads can ask for. -/
def Feeds {ι : Type} (p : Policy) (reads : ι → CachedRead σ shelf) (key : String) (v : Option α)
    (d : Span) : Prop :=
  ∃ k m w o, (reads k).key = key ∧ ((reads k).ask m w).1.1 = some o ∧ p.remember o = (v, d)

/-- How long a value is remembered, or a failure. -/
def lifetimeOf (p : Policy) (v : Option α) : Span :=
  if v.isSome then p.lifetime else p.errorLifetime

theorem remember_snd (p : Policy) (o : Outcome α) :
    (p.remember o).2 = lifetimeOf p (p.remember o).1 := by
  cases o <;> rfl

/-- What is remembered says how long. -/
theorem Feeds.lifetime_eq {ι : Type} {p : Policy} {reads : ι → CachedRead σ shelf} {key : String}
    {v : Option α} {d : Span} (h : Feeds p reads key v d) : d = lifetimeOf p v := by
  rcases h with ⟨k, m, w, o, -, -, h⟩
  have hsnd := remember_snd p o
  rw [h] at hsnd
  exact hsnd

end CachedRead

/-! ## The reads of a monitored system -/

namespace MonitoredSystem

variable {σ : Type}

/-- All reads of process lists. -/
def processReads (s : MonitoredSystem σ) (k : Deadline × String) :
    CachedRead σ Memory.processShelf :=
  s.processRead k.1 k.2

/-- A read of the directory leaves the process lists alone. -/
theorem processes_directory (s : MonitoredSystem σ) (d : Deadline) (m : Memory) (w : World σ) :
    (s.directory d m w).1.2.processes = m.processes := by
  refine CachedRead.read_elsewhere (r := s.directoryRead d) (fun c m => rfl) (fun m w => ?_) m w
  rcases s.memory_askDirectory d m w with ⟨id, h⟩
  have hsame := congrArg Memory.processes h
  exact hsame

/-- A read of a process list leaves the directory alone. -/
theorem directories_processes (s : MonitoredSystem σ) (d : Deadline) (endpoint : String)
    (m : Memory) (w : World σ) : (s.processes d endpoint m w).1.2.directories = m.directories :=
  CachedRead.read_elsewhere (r := s.processRead d endpoint) (fun _ _ => rfl) (fun _ _ => rfl) m w

/-- What is remembered of the answer of the service about the processes of an instance. -/
theorem outcome_processRead (s : MonitoredSystem σ) (d : Deadline) (endpoint : String)
    (m : Memory) (w : World σ) :
    ((s.processRead d endpoint).ask m w).1.1 =
      some (match (s.service.processes d endpoint w).1 with
      | .ok listed => .ok (Landscape.watched listed)
      | .error e => .error (.within "GetProcesses" e)) := by
  change some (Landscape.readProcesses s.service d endpoint w).1 = _
  rw [Landscape.readProcesses]
  simp only [bind, StateT.bind]
  cases s.service.processes d endpoint w with
  | mk outcome w' =>
    cases outcome with
    | ok listed => rfl
    | error e => rfl

end MonitoredSystem

end SapMonitor
