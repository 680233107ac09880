import SapMonitor.Proofs.Cache.Turns

/-!
# What the counters count

A cache counts hits and misses, its callers get answers.  A fetch that finds its
value is a hit and one that populates its key is a miss; a caller that is dropped is
neither, whatever it has done before.

Main results:

- `Meeting.Tally.run`: along every run the hits are the fetches that found their
  value, and the misses are those that populated it.
-/

namespace SapMonitor.Cache

open Time (Span)

variable {ν : Type}

/-! ## Hits and misses of callers -/

namespace Phase

/-- Whether the caller found what it fetched. -/
def isHit : Phase ν → Bool
  | done (.found _) => true
  | _ => false

/-- Whether the caller populated what it fetched. -/
def isMiss : Phase ν → Bool
  | done (.populated _) => true
  | _ => false

theorem isHit_of_waits {p : Phase ν} (h : p.waits = true) : p.isHit = false := by
  cases p with
  | done a => cases h
  | _ => rfl

theorem isMiss_of_waits {p : Phase ν} (h : p.waits = true) : p.isMiss = false := by
  cases p with
  | done a => cases h
  | _ => rfl

end Phase

namespace Caller

def isHit (c : Caller ν) : Bool :=
  c.phase.isHit

def isMiss (c : Caller ν) : Bool :=
  c.phase.isMiss

end Caller

namespace Request

/-- Reading counts the fetch that it answers. -/
theorem hits_read (r : Request) (now : Nat) (c : ExpiringCache ν) :
    (r.read now c).2.counters.hits = c.counters.hits + (r.read now c).1.isHit.toNat := by
  cases r with
  | fetch key =>
    cases hl : c.live? key now with
    | none =>
      rw [read_fetch_of_dead hl]
      rfl
    | some v =>
      rw [read_fetch_of_live hl]
      rfl
  | _ => rfl

/-- Reading is never a miss. -/
theorem misses_read (r : Request) (now : Nat) (c : ExpiringCache ν) :
    (r.read now c).2.counters.misses = c.counters.misses ∧ (r.read now c).1.isMiss = false := by
  cases r with
  | fetch key =>
    cases hl : c.live? key now with
    | none =>
      rw [read_fetch_of_dead hl]
      exact ⟨rfl, rfl⟩
    | some v =>
      rw [read_fetch_of_live hl]
      exact ⟨rfl, rfl⟩
  | _ => exact ⟨rfl, rfl⟩

/-- An owner counts the fetch that it answers. -/
theorem hits_own (r : Request) (since now : Nat) (c : ExpiringCache ν) :
    (r.own since now c).2.counters.hits = c.counters.hits + (r.own since now c).1.isHit.toNat := by
  cases r with
  | fetch key =>
    cases hl : c.live? key now with
    | none =>
      rw [own_fetch_of_dead hl]
      cases (c.find? key).isSome <;> rfl
    | some v =>
      rw [own_fetch_of_live hl]
      rfl
  | _ => rfl

/-- An owner that begins to populate is no miss yet. -/
theorem misses_own (r : Request) (since now : Nat) (c : ExpiringCache ν) :
    (r.own since now c).2.counters.misses = c.counters.misses ∧
      (r.own since now c).1.isMiss = false := by
  cases r with
  | fetch key =>
    cases hl : c.live? key now with
    | none =>
      rw [own_fetch_of_dead hl]
      cases (c.find? key).isSome <;> exact ⟨rfl, rfl⟩
    | some v =>
      rw [own_fetch_of_live hl]
      exact ⟨rfl, rfl⟩
  | _ => exact ⟨rfl, rfl⟩

end Request

namespace ExpiringCache

theorem counters_countDrop (held : Bool) (c : ExpiringCache ν) :
    (c.countDrop held).counters.hits = c.counters.hits ∧
      (c.countDrop held).counters.misses = c.counters.misses := by
  cases held <;> exact ⟨rfl, rfl⟩

end ExpiringCache

namespace Meeting

/-! ## The tally -/

/-- Since a cache was opened, its hits and misses are those of its callers. -/
structure Tally (c : ExpiringCache ν) (m : Meeting ν) : Prop where
  hits : m.cache.counters.hits = c.counters.hits + m.callers.countP Caller.isHit
  misses : m.cache.counters.misses = c.counters.misses + m.callers.countP Caller.isMiss

/-- A caller that was not counted before is counted anew. -/
theorem countP_put_of_not {m : Meeting ν} {i : Nat} {c : Caller ν} {p : Caller ν → Bool}
    (hc : m.callers[i]? = some c) (cache : ExpiringCache ν) (l : Lock) (c' : Caller ν)
    (h : p c = false) :
    ({ m with cache := cache, lock := l }.put i c').callers.countP p =
      m.callers.countP p + (p c').toNat := by
  have hcount := countP_put (m := { m with cache := cache, lock := l }) hc c' p
  rw [h] at hcount
  cases hp : p c' with
  | false => simpa [hp] using hcount
  | true => simpa [hp] using hcount

namespace Tally

variable {c : ExpiringCache ν} {m : Meeting ν}

theorem start (c : ExpiringCache ν) : Tally c { cache := c } where
  hits := rfl
  misses := rfl

/-- The tally goes on with a caller that is counted in its new phase and was not
counted before. -/
theorem put (hm : Tally c m) {i : Nat} {d : Caller ν} (hd : m.callers[i]? = some d)
    (hh : d.phase.isHit = false) (hs : d.phase.isMiss = false) {cache : ExpiringCache ν} (l : Lock)
    {p : Phase ν} (hits : cache.counters.hits = m.cache.counters.hits + p.isHit.toNat)
    (misses : cache.counters.misses = m.cache.counters.misses + p.isMiss.toNat) :
    Tally c ({ m with cache := cache, lock := l }.put i { d with phase := p }) where
  hits := by
    have hcount := countP_put_of_not (p := Caller.isHit) hd cache l { d with phase := p } hh
    rw [hcount, ← Nat.add_assoc, ← hm.hits]
    exact hits
  misses := by
    have hcount := countP_put_of_not (p := Caller.isMiss) hd cache l { d with phase := p } hs
    rw [hcount, ← Nat.add_assoc, ← hm.misses]
    exact misses

/-- The tally goes on with every move. -/
theorem step {m' : Meeting ν} {now : Nat} {s : Step ν} (hm : Tally c m) (h : Moves m now s m') :
    Tally c m' := by
  cases h with
  | come r =>
    have hhit : Caller.isHit (⟨r, now, r.start⟩ : Caller ν) = false := by cases r <;> rfl
    have hmiss : Caller.isMiss (⟨r, now, r.start⟩ : Caller ν) = false := by cases r <;> rfl
    refine ⟨?_, ?_⟩
    · rw [List.countP_append, List.countP_singleton, hhit]
      exact hm.hits
    · rw [List.countP_append, List.countP_singleton, hmiss]
      exact hm.misses
  | share hd hp hl => exact hm.put hd (by rw [hp]; rfl) (by rw [hp]; rfl) _ rfl rfl
  | take hd hp hl => exact hm.put hd (by rw [hp]; rfl) (by rw [hp]; rfl) _ rfl rfl
  | @read i d hd hp =>
    rcases d.request.misses_read now m.cache with ⟨hmisses, hmiss⟩
    refine hm.put hd (by rw [hp]; rfl) (by rw [hp]; rfl) _ (d.request.hits_read now m.cache) ?_
    rw [hmisses, hmiss]
    rfl
  | @own i d hd hp =>
    rcases d.request.misses_own d.since now m.cache with ⟨hmisses, hmiss⟩
    refine hm.put hd (by rw [hp]; rfl) (by rw [hp]; rfl) _
      (d.request.hits_own d.since now m.cache) ?_
    rw [hmisses, hmiss]
    rfl
  | @count i d held hd hp =>
    rcases m.cache.counters_countDrop held with ⟨hhits, hmisses⟩
    exact hm.put hd (by rw [hp]; rfl) (by rw [hp]; rfl) _ hhits hmisses
  | finish v d hd hr hp hf => exact hm.put hd (by rw [hp]; rfl) (by rw [hp]; rfl) _ rfl rfl
  | lose v d hd hr hp hf => exact hm.put hd (by rw [hp]; rfl) (by rw [hp]; rfl) _ rfl rfl
  | leave hd hw =>
    exact hm.put hd (Phase.isHit_of_waits hw) (Phase.isMiss_of_waits hw) _ rfl rfl

/-- Along every run the counters count what the callers got. -/
theorem run {m' : Meeting ν} {history : List (Nat × Step ν)} (hm : Tally c m)
    (h : m.run? history = some m') : Tally c m' :=
  run?_invariant (fun hm hs => hm.step hs) h hm

end Tally

end Meeting

end SapMonitor.Cache
