import Mathlib.Data.List.Flatten
import SapMonitor.Cache.Expiring

/-!
# A cache used by one caller at a time

Calls are made one after the other.  Each of them brings the clock readings that it
may ask for, and a fetch brings what it would populate its key with; how often it does
so is counted.  A transcript puts down each call with the reply to it.

Main results:

- `Use.perform_fetch_of_live` and `Use.perform_fetch_of_dead`: a fetch populates its
  key once if nothing is live at its first check, and not at all otherwise.
- `Use.perform_fetch_of_endless`: a population that would live beyond the end of the clock
  is lost.
- `InOrder.head` and `InOrder.tail`: readings in order are in order call by call.
-/

namespace SapMonitor.Cache

open Time (Span)

variable {ν : Type}

/-! ## The desk of a cache -/

/-- A cache, the clock readings to come, and how often a key has been populated. -/
structure Desk (ν : Type) where
  cache : ExpiringCache ν
  readings : List Nat
  populations : Nat := 0

namespace Desk

/-- Works on the cache. -/
def onCache {α : Type} (f : ExpiringCache ν → α × ExpiringCache ν) : StateM (Desk ν) α :=
  modifyGet fun d => ((f d.cache).1, { d with cache := (f d.cache).2 })

/-- Reads the clock. -/
def readClock : StateM (Desk ν) Nat :=
  modifyGet fun d => (d.readings.headD 0, { d with readings := d.readings.tail })

/-- Populates a key with a value, and counts that. -/
def populate (value : ν) (lifetime : Span) : StateM (Desk ν) (Option (ν × Span)) :=
  modifyGet fun d => (some (value, lifetime), { d with populations := d.populations + 1 })

/-- Fetches a key. -/
def fetch (key : String) (value : ν) (lifetime : Span) : StateM (Desk ν) (Option ν) :=
  ExpiringCache.fetch onCache readClock key (populate value lifetime)

end Desk

/-! ## Calls and replies -/

/-- A call of a cache.  A fetch looks its key up at one reading of the clock, claims it at
the next, and stores what it has populated the key with at the last. -/
inductive Use (ν : Type) where
  | fetch (key : String) (looked claimed stored : Nat) (value : ν) (lifetime : Span)
  | get (key : String) (now : Nat)
  | remove (key : String)
  | purge (now : Nat)

/-- The reply to a call; that to a fetch comes with the number of its populations.  A fetch
that is lost has no value. -/
inductive Reply (ν : Type) where
  | value (value : ν) (populations : Nat)
  | lost (populations : Nat)
  | live (value : Option ν)
  | removed (held : Bool)
  | swept (count : Nat)

/-- The reply to a fetch. -/
def Reply.ofFetch (got : Option ν) (populations : Nat) : Reply ν :=
  match got with
  | some v => .value v populations
  | none => .lost populations

namespace Use

/-- The clock readings of a call. -/
def readings : Use ν → List Nat
  | fetch _ looked claimed stored _ _ => [looked, claimed, stored]
  | get _ now => [now]
  | remove _ => []
  | purge now => [now]

/-- The time at which a call ends that begins at a time. -/
def ending (t : Nat) : Use ν → Nat
  | fetch _ _ _ stored _ _ => stored
  | get _ now => now
  | remove _ => t
  | purge now => now

/-- Whether a call asks for the value of a key. -/
def isRead : Use ν → Bool
  | fetch .. => true
  | get .. => true
  | _ => false

/-- Whether a call sweeps. -/
def isPurge : Use ν → Bool
  | purge _ => true
  | _ => false

/-- Whether a call is about a key. -/
def isOn (key : String) : Use ν → Bool
  | fetch k .. => k = key
  | get k _ => k = key
  | remove k => k = key
  | purge _ => false

/-- The reply to a call, and the cache after it. -/
def perform (c : ExpiringCache ν) : Use ν → Reply ν × ExpiringCache ν
  | fetch key looked claimed stored v d =>
    let (got, desk) :=
      (Desk.fetch key v d).run { cache := c, readings := [looked, claimed, stored] }
    (.ofFetch got desk.populations, desk.cache)
  | get key now => (.live (c.live? key now), c)
  | remove key => (.removed (c.remove key).1, (c.remove key).2)
  | purge now => (.swept (c.purge now).1, (c.purge now).2)

/-- A fetch returns what is live. -/
theorem perform_fetch_of_live {c : ExpiringCache ν} {key : String} {looked : Nat} {w : ν}
    (h : c.live? key looked = some w) (claimed stored : Nat) (v : ν) (d : Span) :
    (fetch key looked claimed stored v d).perform c = (.value w 0, c.countHit) := by
  have hrun : (Desk.fetch key v d).run { cache := c, readings := [looked, claimed, stored] } =
      pure (some w, { cache := c.countHit, readings := [claimed, stored] }) := by
    simp [Desk.fetch, ExpiringCache.fetch, Desk.readClock, Desk.onCache,
      ExpiringCache.look_of_live h]
  rw [perform, hrun]
  rfl

/-- The cache with a dead entry of a key counted. -/
def claimedCache (key : String) (c : ExpiringCache ν) : ExpiringCache ν :=
  if (c.find? key).isSome then c.countExpired else c

theorem entries_claimedCache (key : String) (c : ExpiringCache ν) :
    (claimedCache key c).entries = c.entries := by
  unfold claimedCache
  split <;> rfl

/-- A fetch fills its key with one population if nothing is live at its first check. -/
theorem perform_fetch {c : ExpiringCache ν} {key : String} {looked claimed : Nat}
    (h : c.live? key looked = none) (hle : looked ≤ claimed) (stored : Nat) (v : ν) (d : Span) :
    (fetch key looked claimed stored v d).perform c =
      let filled := (claimedCache key c).fill key (some (v, d)) stored (c.find? key).isSome
      (.ofFetch filled.1 1, filled.2) := by
  have hclaimed : c.live? key claimed = none := ExpiringCache.live?_none_of_le hle h
  have hrun : (Desk.fetch key v d).run { cache := c, readings := [looked, claimed, stored] } =
      let filled := (claimedCache key c).fill key (some (v, d)) stored (c.find? key).isSome
      pure (filled.1, { cache := filled.2, readings := [], populations := 1 }) := by
    cases hf : (c.find? key).isSome <;>
      simp [Desk.fetch, ExpiringCache.fetch, Desk.readClock, Desk.onCache, Desk.populate,
        ExpiringCache.look_of_dead h, ExpiringCache.claim_of_dead hclaimed, claimedCache, hf]
  rw [perform, hrun]
  rfl

/-- It stores the population and returns it. -/
theorem perform_fetch_of_dead {c : ExpiringCache ν} {key : String} {looked claimed stored : Nat}
    {d : Span} (h : c.live? key looked = none) (hle : looked ≤ claimed)
    (hd : d.fits stored = true) (v : ν) :
    (fetch key looked claimed stored v d).perform c =
      (.value v 1, (claimedCache key c).store key v d stored (c.find? key).isSome) := by
  rw [perform_fetch h hle, ExpiringCache.fill_of_fits hd]
  rfl

/-- A population that would live beyond the end of the clock is lost. -/
theorem perform_fetch_of_endless {c : ExpiringCache ν} {key : String}
    {looked claimed stored : Nat} {d : Span} (h : c.live? key looked = none)
    (hle : looked ≤ claimed) (hd : d.fits stored = false) (v : ν) :
    (fetch key looked claimed stored v d).perform c = (.lost 1, claimedCache key c) := by
  rw [perform_fetch h hle, ExpiringCache.fill_of_not_fits hd]
  rfl

end Use

/-! ## Sequences of calls -/

/-- A call with its readings in order ends after it begins. -/
theorem Use.le_ending {t : Nat} {u : Use ν} (h : (t :: u.readings).Pairwise (· ≤ ·)) :
    t ≤ u.ending t := by
  have hfirst := (List.pairwise_cons.1 h).1
  cases u with
  | fetch key looked claimed stored v d =>
    exact hfirst stored (List.mem_cons_of_mem _ (List.mem_cons_of_mem _ List.mem_cons_self))
  | get key now => exact hfirst now List.mem_cons_self
  | remove key => exact Nat.le_refl t
  | purge now => exact hfirst now List.mem_cons_self

/-- A fetch with its readings in order looks its key up before it claims it. -/
theorem Use.le_of_fetch {t : Nat} {key : String} {looked claimed stored : Nat} {v : ν} {d : Span}
    (h : (t :: (fetch key looked claimed stored v d).readings).Pairwise (· ≤ ·)) :
    t ≤ looked ∧ looked ≤ claimed := by
  rcases List.pairwise_cons.1 h with ⟨hfirst, hrest⟩
  exact ⟨hfirst looked List.mem_cons_self, (List.pairwise_cons.1 hrest).1 claimed List.mem_cons_self⟩

/-- The clock readings of calls never go back, and begin after a time. -/
def InOrder (t : Nat) (uses : List (Use ν)) : Prop :=
  (t :: uses.flatMap Use.readings).Pairwise (· ≤ ·)

namespace InOrder

variable {t : Nat} {u : Use ν} {uses : List (Use ν)}

/-- The readings of the first call are in order. -/
theorem head (h : InOrder t (u :: uses)) : (t :: u.readings).Pairwise (· ≤ ·) := by
  rw [InOrder, List.flatMap_cons, ← List.cons_append] at h
  exact (List.pairwise_append.1 h).1

/-- The other calls are in order from its end on. -/
theorem tail (h : InOrder t (u :: uses)) : InOrder (u.ending t) uses := by
  rw [InOrder, List.flatMap_cons, ← List.cons_append] at h
  rcases List.pairwise_append.1 h with ⟨-, hrest, hcross⟩
  refine List.pairwise_cons.2 ⟨fun n hn => hcross _ ?_ n hn, hrest⟩
  cases u <;> simp [Use.ending, Use.readings]

/-- Calls stay in order when some of them are left out. -/
theorem sublist {some : List (Use ν)} (h : InOrder t uses) (hs : some.Sublist uses) :
    InOrder t some :=
  List.Pairwise.sublist ((hs.flatMap Use.readings).cons_cons t) h

end InOrder

/-- The cache after calls. -/
def afterUses (c : ExpiringCache ν) : List (Use ν) → ExpiringCache ν
  | [] => c
  | u :: uses => afterUses (u.perform c).2 uses

/-- Calls with the replies to them. -/
def transcript (c : ExpiringCache ν) : List (Use ν) → List (Use ν × Reply ν)
  | [] => []
  | u :: uses => (u, (u.perform c).1) :: transcript (u.perform c).2 uses

end SapMonitor.Cache
