import SapMonitor.Proofs.Cache.Exclusion
import SapMonitor.Proofs.Cache.Populations

/-!
# What the counters owe

The counters of a cache are moved at different points of four operations, and a removal
counts what it did after it has given the lock back.  The books pay for the operations that
are under way: a removal owes the entry that it has not counted yet, and a caller that
populates over a dead entry owes an update.  A caller that is dropped while it populates,
or whose population is not stored, takes its debt with it.  The order of times does not
occur in the books, so the clock may go back.

Main results:

- `Meeting.Claimed.step`: a caller that populates its key knows whether it has an entry.
- `Meeting.Settles.own`: what an owner does to the counters is paid by entries and debts.
- `Meeting.Books.run`: along every run the counters balance, debts and losses included.
- `Meeting.misses_of_run?`: the misses are the populations that were stored.
-/

namespace SapMonitor.Cache

open Time (Span)

variable {ν : Type}

/-! ## How many entries there are -/

/-- Setting an entry adds one, unless the key has one already. -/
theorem length_putEntry (key : String) (e : Entry ν) (entries : List (String × Entry ν)) :
    (putEntry key e entries).length + (entries.lookup key).isSome.toNat =
      entries.length + 1 := by
  induction entries with
  | nil => rfl
  | cons entry rest ih =>
    obtain ⟨k, old⟩ := entry
    by_cases hk : key = k
    · simp [putEntry, hk]
    · have hb : (key == k) = false := beq_false_of_ne hk
      simp only [putEntry, hb, List.lookup_cons, List.length_cons, Bool.false_eq_true, ↓reduceIte]
      omega

/-- Among distinct keys, leaving one out takes one entry away if the key has one. -/
theorem length_filter_ne (key : String) {entries : List (String × Entry ν)}
    (h : (entries.map Prod.fst).Nodup) :
    (entries.filter fun e => e.1 != key).length + (entries.lookup key).isSome.toNat =
      entries.length := by
  induction entries with
  | nil => rfl
  | cons entry rest ih =>
    obtain ⟨k, e⟩ := entry
    simp only [List.map_cons, List.nodup_cons] at h
    have hrest := ih h.2
    by_cases hk : key = k
    · subst hk
      have hnone : rest.lookup key = none := by
        rw [List.lookup_eq_none_iff]
        intro q hq
        have hne : key ≠ q.1 := fun he => h.1 (he ▸ List.mem_map_of_mem hq)
        simpa using hne
      rw [hnone] at hrest
      simpa using hrest
    · have hb : (key == k) = false := beq_false_of_ne hk
      have hb' : (k != key) = true := bne_iff_ne.2 (Ne.symm hk)
      simp only [List.filter_cons, hb', if_true, List.lookup_cons, hb, List.length_cons]
      omega

namespace ExpiringCache

/-- A population adds an entry, unless it replaces one. -/
theorem size_store (c : ExpiringCache ν) (key : String) (v : ν) (d : Span) (now : Nat)
    (stale : Bool) :
    (c.store key v d now stale).size + (c.find? key).isSome.toNat = c.size + 1 :=
  length_putEntry key _ c.entries

/-- A removal takes an entry away if the key is held. -/
theorem size_drop (c : ExpiringCache ν) (key : String) :
    (c.drop key).2.size + (c.drop key).1.toNat = c.size :=
  length_filter_ne key c.distinct

end ExpiringCache

/-! ## Debts -/

namespace Phase

/-- Whether the caller has removed an entry that it has not counted yet. -/
def owesDelete : Phase ν → Bool
  | counting held => held
  | _ => false

/-- Whether the caller populates over a dead entry. -/
def owesUpdate : Phase ν → Bool
  | populating stale => stale
  | _ => false

end Phase

namespace Caller

def owesDelete (c : Caller ν) : Bool :=
  c.phase.owesDelete

def owesUpdate (c : Caller ν) : Bool :=
  c.phase.owesUpdate

end Caller

namespace Step

/-- Whether a population is completed in a step. -/
def isFinish : Step ν → Bool
  | finish .. => true
  | _ => false

/-- Whether a population is completed in a step and stored: the clock can tell its end. -/
def stores (now : Nat) : Step ν → Bool
  | finish _ _ lifetime => lifetime.fits now
  | _ => false

/-- The caller that is gone after a step: it is dropped, or its population is not stored. -/
def loses? (now : Nat) : Step ν → Option Nat
  | leave i => some i
  | finish i _ lifetime => if lifetime.fits now then none else some i
  | _ => none

end Step

namespace Request

/-- A read moves no counter but that of the hits. -/
theorem counters_read (r : Request) (now : Nat) (c : ExpiringCache ν) :
    ∃ hits, (r.read now c).2.counters = { c.counters with hits := hits } := by
  cases r with
  | fetch key =>
    cases hl : c.live? key now with
    | none => exact ⟨_, by rw [read_fetch_of_dead hl]⟩
    | some v => exact ⟨_, by rw [read_fetch_of_live hl]; rfl⟩
  | _ => exact ⟨_, rfl⟩

/-- A read ends in no debt. -/
theorem owes_read (r : Request) (now : Nat) (c : ExpiringCache ν) :
    (r.read now c).1.owesDelete = false ∧ (r.read now c).1.owesUpdate = false := by
  cases r with
  | fetch key =>
    cases hl : c.live? key now with
    | none => rw [read_fetch_of_dead hl]; exact ⟨rfl, rfl⟩
    | some v => rw [read_fetch_of_live hl]; exact ⟨rfl, rfl⟩
  | _ => exact ⟨rfl, rfl⟩

end Request

namespace Meeting

/-! ## Claims -/

/-- A caller that populates its key knows whether the key has an entry: it owns the lock,
so nobody else has changed that since. -/
structure Claimed (m : Meeting ν) : Prop where
  lock : LockAgrees m
  claims : ∀ c ∈ m.callers, ∀ key stale, c.request = .fetch key → c.phase = .populating stale →
    (m.cache.find? key).isSome = stale

namespace Claimed

variable {m m' : Meeting ν}

theorem start (c : ExpiringCache ν) : Claimed ({ cache := c } : Meeting ν) where
  lock := .start c
  claims d hd := by cases hd

/-- The claims stand if the caller in its new phase claims rightly, and either the entries
stay as they are or the caller owned the lock. -/
theorem put (hm : Claimed m) {i : Nat} {c : Caller ν} (hc : m.callers[i]? = some c)
    {cache : ExpiringCache ν} {l : Lock} {p : Phase ν}
    (hlock : LockAgrees ({ m with cache := cache, lock := l }.put i { c with phase := p }))
    (hself : ∀ key stale, c.request = .fetch key → p = .populating stale →
      (cache.find? key).isSome = stale)
    (hothers : cache.entries = m.cache.entries ∨ c.phase.owns = true) :
    Claimed ({ m with cache := cache, lock := l }.put i { c with phase := p }) where
  lock := hlock
  claims d hd key stale hr hp := by
    obtain ⟨j, hj⟩ := List.mem_iff_getElem?.1 hd
    rw [getElem?_put (m := { m with cache := cache, lock := l }) hc] at hj
    by_cases hij : i = j
    · rw [if_pos hij] at hj
      obtain rfl := Option.some.inj hj
      exact hself key stale hr hp
    · rw [if_neg hij] at hj
      rcases hothers with he | ho
      · have hsame : cache.find? key = m.cache.find? key := ExpiringCache.find?_of_entries he key
        have hclaim := hm.claims d (List.mem_of_getElem? hj) key stale hr hp
        change (cache.find? key).isSome = stale
        rw [hsame, hclaim]
      · have hdo : d.phase.owns = true := by rw [hp]; rfl
        exact absurd (hm.lock.eq_of_owns hc hj ho hdo) hij

/-- An owner that begins to populate a key has seen whether it has an entry. -/
theorem claims_own {r : Request} {since now : Nat} {c : ExpiringCache ν} {key : String}
    {stale : Bool} (hr : r = .fetch key) (hp : (r.own since now c).1 = .populating stale) :
    ((r.own since now c).2.find? key).isSome = stale := by
  subst hr
  cases hl : c.live? key now with
  | none =>
    rw [Request.own_fetch_of_dead hl] at hp ⊢
    have hsame : (if (c.find? key).isSome then c.countExpired else c).find? key = c.find? key := by
      split <;> rfl
    change ((if (c.find? key).isSome then c.countExpired else c).find? key).isSome = stale
    rw [hsame]
    exact Phase.populating.inj hp
  | some v =>
    rw [Request.own_fetch_of_live hl] at hp
    cases hp

theorem step {now : Nat} {s : Step ν} (hm : Claimed m) (h : Moves m now s m') : Claimed m' := by
  have hlock := hm.lock.step h
  cases h with
  | come r =>
    refine ⟨hlock, fun d hd key stale hr hp => ?_⟩
    rcases List.mem_append.1 hd with hd | hd
    · exact hm.claims d hd key stale hr hp
    · rw [List.mem_singleton] at hd
      subst hd
      cases r <;> cases hp
  | share hc hp hl => exact hm.put hc hlock nofun (.inl rfl)
  | take hc hp hl => exact hm.put hc hlock nofun (.inl rfl)
  | @read i c hc hp =>
    refine hm.put hc hlock (fun key stale _ hpop => ?_) (.inl (c.request.entries_read now m.cache))
    have howns := (LockAgrees.reads_read c.request now m.cache).2
    rw [hpop] at howns
    cases howns
  | @own i c hc hp =>
    exact hm.put hc hlock (fun key stale hr hpop => claims_own hr hpop) (.inr (by rw [hp]; rfl))
  | @count i c held hc hp =>
    exact hm.put hc hlock nofun (.inl (ExpiringCache.entries_countDrop held m.cache))
  | finish value lifetime hc hr hp hf => exact hm.put hc hlock nofun (.inr (by rw [hp]; rfl))
  | lose value lifetime hc hr hp hf => exact hm.put hc hlock nofun (.inl rfl)
  | leave hc hw => exact hm.put hc hlock nofun (.inl rfl)

end Claimed

/-! ## Losses -/

/-- Who is gone in a step while it populates: whether it had claimed a dead entry. -/
def lost (m : Meeting ν) (now : Nat) (s : Step ν) : List Bool :=
  match (s.loses? now).bind fun i => m.callers[i]?.map Caller.phase with
  | some (.populating stale) => [stale]
  | _ => []

/-- The callers of a run that are gone without having stored what they populated: whether
each of them had claimed a dead entry. -/
def losses : Meeting ν → List (Nat × Step ν) → List Bool
  | _, [] => []
  | m, (now, s) :: rest =>
    match m.step? now s with
    | none => []
    | some m' => m.lost now s ++ losses m' rest

theorem losses_cons {m m' : Meeting ν} {now : Nat} {s : Step ν} (h : m.step? now s = some m')
    (rest : List (Nat × Step ν)) :
    losses m ((now, s) :: rest) = m.lost now s ++ losses m' rest := by
  rw [losses, h]

/-- A caller that is gone takes its unpaid update with it. -/
theorem count_lost {m : Meeting ν} {now i : Nat} {s : Step ν} {c : Caller ν}
    (hs : s.loses? now = some i) (hc : m.callers[i]? = some c) :
    (m.lost now s).count true = c.phase.owesUpdate.toNat := by
  rw [lost, hs, Option.bind_some, hc, Option.map_some]
  cases c.phase with
  | populating stale => cases stale <;> rfl
  | _ => rfl

/-! ## The books -/

/-- A change of the cache goes with a change of one caller's phase, which loses some
updates: what the counters gain is paid by entries and debts. -/
structure Settles (c : ExpiringCache ν) (p : Phase ν) (lost : Nat) (c' : ExpiringCache ν)
    (p' : Phase ν) : Prop where
  stored : c'.counters.misses + (c.counters.sets + c.counters.updates) =
    c.counters.misses + (c'.counters.sets + c'.counters.updates)
  held : c'.size + c'.counters.deletes + p'.owesDelete.toNat + c.counters.sets =
    c.size + c.counters.deletes + p.owesDelete.toNat + c'.counters.sets
  replaced : c'.counters.expired + (c.counters.updates + p.owesUpdate.toNat) =
    c.counters.expired + (c'.counters.updates + p'.owesUpdate.toNat) + lost

namespace Settles

/-- Nothing happens, and nobody comes into debt. -/
theorem same (c : ExpiringCache ν) {p p' : Phase ν} (hd : p.owesDelete = p'.owesDelete)
    (hu : p.owesUpdate = p'.owesUpdate) : Settles c p 0 c p' := by
  constructor
  · rfl
  · rw [hd]
  · rw [hu, Nat.add_zero]

/-- A read settles: it moves the hits only. -/
theorem read (r : Request) (now : Nat) (c : ExpiringCache ν) :
    Settles c .reading 0 (r.read now c).2 (r.read now c).1 := by
  obtain ⟨hits, hcounters⟩ := r.counters_read now c
  obtain ⟨hdelete, hupdate⟩ := r.owes_read now c
  have hsize : (r.read now c).2.size = c.size := congrArg List.length (r.entries_read now c)
  constructor
  · rw [hcounters]
  · rw [hcounters, hsize, hdelete]
    rfl
  · rw [hcounters, hupdate]
    rfl

/-- What an owner does settles: a dead entry that is claimed is an update to come, a
dropped entry is a deletion to come, and a sweep counts what it deletes. -/
theorem own (r : Request) (since now : Nat) (c : ExpiringCache ν) :
    Settles c .owning 0 (r.own since now c).2 (r.own since now c).1 := by
  cases r with
  | fetch key =>
    cases hl : c.live? key now with
    | none =>
      rw [Request.own_fetch_of_dead hl]
      cases (c.find? key).isSome with
      | false => exact same c rfl rfl
      | true =>
        constructor
        · rfl
        · rfl
        · change c.counters.expired + 1 + (c.counters.updates + 0) =
            c.counters.expired + (c.counters.updates + 1) + 0
          omega
    | some v =>
      rw [Request.own_fetch_of_live hl]
      constructor <;> rfl
  | remove key =>
    have hsize := c.size_drop key
    constructor
    · rfl
    · change (c.drop key).2.size + c.counters.deletes + (c.drop key).1.toNat + c.counters.sets =
        c.size + c.counters.deletes + 0 + c.counters.sets
      omega
    · rfl
  | purge =>
    have hsize := c.size_purge since
    constructor
    · rfl
    · change (c.purge since).2.size + (c.counters.deletes + (c.purge since).1) + 0 +
        c.counters.sets = c.size + c.counters.deletes + 0 + c.counters.sets
      omega
    · rfl
  | get key => exact same c rfl rfl
  | size => exact same c rfl rfl

/-- A removal that is counted is no debt any more. -/
theorem count (c : ExpiringCache ν) (held : Bool) :
    Settles c (.counting held) 0 (c.countDrop held) (.done (.removed held)) := by
  cases held with
  | false => exact same c rfl rfl
  | true =>
    constructor
    · rfl
    · change c.size + (c.counters.deletes + 1) + 0 + c.counters.sets =
        c.size + c.counters.deletes + 1 + c.counters.sets
      omega
    · rfl

/-- A population is a set if the key had no entry, and an update otherwise. -/
theorem store {c : ExpiringCache ν} {key : String} {stale : Bool}
    (hclaim : (c.find? key).isSome = stale) (v : ν) (d : Span) (now : Nat) :
    Settles c (.populating stale) 0 (c.store key v d now stale) (.done (.populated v)) := by
  have hsize := c.size_store key v d now stale
  rw [hclaim] at hsize
  cases stale with
  | false =>
    have hsize' : (c.store key v d now false).size = c.size + 1 := hsize
    constructor
    · change c.counters.misses + 1 + (c.counters.sets + c.counters.updates) =
        c.counters.misses + (c.counters.sets + 1 + c.counters.updates)
      omega
    · rw [hsize']
      change c.size + 1 + c.counters.deletes + 0 + c.counters.sets =
        c.size + c.counters.deletes + 0 + (c.counters.sets + 1)
      omega
    · rfl
  | true =>
    have hsize' : (c.store key v d now true).size = c.size := Nat.succ.inj hsize
    constructor
    · change c.counters.misses + 1 + (c.counters.sets + c.counters.updates) =
        c.counters.misses + (c.counters.sets + (c.counters.updates + 1))
      omega
    · rw [hsize']
      rfl
    · change c.counters.expired + (c.counters.updates + 1) =
        c.counters.expired + (c.counters.updates + 1 + 0) + 0
      omega

/-- A caller that is gone loses the update that it owes. -/
theorem leave (c : ExpiringCache ν) {p : Phase ν} (hw : p.waits = true) :
    Settles c p p.owesUpdate.toNat c .gone := by
  have hdelete : p.owesDelete = false := by
    cases p with
    | counting held => cases hw
    | _ => rfl
  constructor
  · rfl
  · rw [hdelete]
    rfl
  · change c.counters.expired + (c.counters.updates + p.owesUpdate.toNat) =
      c.counters.expired + (c.counters.updates + 0) + p.owesUpdate.toNat
    omega

end Settles

/-- The counters balance, with what the callers owe and what was lost so far. -/
structure Books (lost : Nat) (m : Meeting ν) : Prop where
  stored : m.cache.counters.misses = m.cache.counters.sets + m.cache.counters.updates
  held : m.cache.size + m.cache.counters.deletes + m.callers.countP Caller.owesDelete =
    m.cache.counters.sets
  replaced : m.cache.counters.expired =
    m.cache.counters.updates + m.callers.countP Caller.owesUpdate + lost

namespace Books

variable {m m' : Meeting ν} {gone : Nat}

theorem start (name : String) : Books 0 ({ cache := .empty name } : Meeting ν) where
  stored := rfl
  held := rfl
  replaced := rfl

/-- The books balance again after a change that settles. -/
theorem put (hm : Books gone m) {i : Nat} {c : Caller ν} (hc : m.callers[i]? = some c)
    {cache : ExpiringCache ν} {p : Phase ν} {k : Nat} (l : Lock)
    (hs : Settles m.cache c.phase k cache p) :
    Books (gone + k) ({ m with cache := cache, lock := l }.put i { c with phase := p }) := by
  have hdelete := countP_put (m := { m with cache := cache, lock := l }) hc { c with phase := p }
    Caller.owesDelete
  have hupdate := countP_put (m := { m with cache := cache, lock := l }) hc { c with phase := p }
    Caller.owesUpdate
  have hpaid (b : Bool) : (if b = true then 1 else 0) = b.toNat := by cases b <;> rfl
  simp only [hpaid] at hdelete hupdate
  change _ + c.phase.owesDelete.toNat = _ + p.owesDelete.toNat at hdelete
  change _ + c.phase.owesUpdate.toNat = _ + p.owesUpdate.toNat at hupdate
  obtain ⟨hstored, hheld, hreplaced⟩ := hm
  obtain ⟨sstored, sheld, sreplaced⟩ := hs
  constructor
  · change cache.counters.misses = cache.counters.sets + cache.counters.updates
    omega
  · change cache.size + cache.counters.deletes + _ = cache.counters.sets
    omega
  · change cache.counters.expired = cache.counters.updates + _ + (gone + k)
    omega

/-- The books balance after every move, with what is lost in it. -/
theorem step {now : Nat} {s : Step ν} (hm : Books gone m) (hclaims : Claimed m)
    (h : Moves m now s m') : Books (gone + (m.lost now s).count true) m' := by
  cases h with
  | come r =>
    have hdelete : Caller.owesDelete (⟨r, now, r.start⟩ : Caller ν) = false := by cases r <;> rfl
    have hupdate : Caller.owesUpdate (⟨r, now, r.start⟩ : Caller ν) = false := by cases r <;> rfl
    constructor
    · exact hm.stored
    · rw [List.countP_append, List.countP_singleton, hdelete]
      exact hm.held
    · rw [List.countP_append, List.countP_singleton, hupdate]
      exact hm.replaced
  | share hc hp hl => exact hm.put hc _ (.same _ (by rw [hp]; rfl) (by rw [hp]; rfl))
  | take hc hp hl => exact hm.put hc _ (.same _ (by rw [hp]; rfl) (by rw [hp]; rfl))
  | @read i c hc hp => exact hm.put hc _ (hp ▸ .read c.request now m.cache)
  | @own i c hc hp => exact hm.put hc _ (hp ▸ .own c.request c.since now m.cache)
  | @count i c held hc hp => exact hm.put hc _ (hp ▸ .count m.cache held)
  | @finish i c key stale v d hc hr hp hf =>
    have hclaim := hclaims.claims c (List.mem_of_getElem? hc) key stale hr hp
    have hlost : m.lost now (.finish i v d) = [] := by rw [lost, Step.loses?, if_pos hf]; rfl
    rw [hlost]
    exact hm.put hc _ (hp ▸ .store hclaim v d now)
  | @lose i c key stale v d hc hr hp hf =>
    have hloses : (Step.finish i v d).loses? now = some i := by simp [Step.loses?, hf]
    rw [count_lost hloses hc]
    exact hm.put hc _ (.leave m.cache (by rw [hp]; rfl))
  | @leave i c hc hw =>
    rw [count_lost rfl hc]
    exact hm.put hc _ (.leave m.cache hw)

/-- Along every run the counters balance, with what is lost in it. -/
theorem run {history : List (Nat × Step ν)} (hm : Books gone m) (hclaims : Claimed m)
    (h : m.run? history = some m') : Books (gone + (losses m history).count true) m' := by
  induction history generalizing m gone with
  | nil =>
    cases h
    exact hm
  | cons e rest ih =>
    obtain ⟨now, s⟩ := e
    obtain ⟨m₁, hs, hrest⟩ := run?_cons h
    have hmove := moves_of_step? hs
    rw [losses_cons hs, List.count_append, ← Nat.add_assoc]
    exact ih (hm.step hclaims hmove) (hclaims.step hmove) hrest

end Books

/-! ## Stored populations -/

/-- A population is stored in a step exactly if the misses go up by one. -/
theorem misses_of_moves {m m' : Meeting ν} {now : Nat} {s : Step ν} (h : Moves m now s m') :
    m'.cache.counters.misses = m.cache.counters.misses + (s.stores now).toNat := by
  cases h with
  | @read i c hc hp => exact (c.request.misses_read now m.cache).1
  | @own i c hc hp => exact (c.request.misses_own c.since now m.cache).1
  | @count i c held hc hp => exact (m.cache.counters_countDrop held).2
  | finish value lifetime hc hr hp hf =>
    rw [Step.stores, hf]
    rfl
  | lose value lifetime hc hr hp hf =>
    rw [Step.stores, hf]
    rfl
  | _ => rfl

/-- Along every run the misses are the stored populations. -/
theorem misses_of_run? {m e : Meeting ν} {history : List (Nat × Step ν)}
    (h : m.run? history = some e) :
    e.cache.counters.misses =
      m.cache.counters.misses + history.countP fun x => x.2.stores x.1 := by
  induction history generalizing m with
  | nil =>
    cases h
    rfl
  | cons x rest ih =>
    obtain ⟨now, s⟩ := x
    obtain ⟨m₁, hs, hrest⟩ := run?_cons h
    rw [ih hrest, misses_of_moves (moves_of_step? hs), List.countP_cons, Nat.add_assoc,
      Nat.add_comm (s.stores now).toNat]
    cases s.stores now <;> rfl

end Meeting

end SapMonitor.Cache
