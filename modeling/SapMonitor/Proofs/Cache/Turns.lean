import Mathlib.Logic.Function.Basic
import SapMonitor.Proofs.Cache.Moves

/-!
# One key at a meeting

What happens at a meeting is looked at from one key: what is live there, and how
far the fetches of the key have come.  A step leaves both as they are, or is one of
five turns that the key can take.

Main results:

- `Meeting.Orderly.turn`: a step that comes in time is one of the turns.
- `Meeting.Orderly.run`: after a run in time, the next step can come in time again.
- `Meeting.Moves.caller`: a caller keeps its request, and its answer.
-/

namespace SapMonitor.Cache

open Time (Span)

variable {ν : Type}

/-! ## Readers and owners -/

namespace Request

/-- Reading changes no entry. -/
theorem entries_read (r : Request) (now : Nat) (c : ExpiringCache ν) :
    (r.read now c).2.entries = c.entries := by
  cases r with
  | fetch key =>
    cases hl : c.live? key now with
    | none => simp [read, ExpiringCache.look_of_dead hl]
    | some v => simp [read, ExpiringCache.look_of_live hl]
  | _ => rfl

theorem read_fetch_of_live {c : ExpiringCache ν} {key : String} {now : Nat} {v : ν}
    (h : c.live? key now = some v) :
    (fetch key).read now c = (.done (.found v), c.countHit) := by
  simp [read, ExpiringCache.look_of_live h]

theorem read_fetch_of_dead {c : ExpiringCache ν} {key : String} {now : Nat}
    (h : c.live? key now = none) : (fetch key).read now c = (.queued, c) := by
  simp [read, ExpiringCache.look_of_dead h]

/-- The second check finds what has come since the first. -/
theorem own_fetch_of_live {c : ExpiringCache ν} {key : String} {since now : Nat} {v : ν}
    (h : c.live? key now = some v) :
    (fetch key).own since now c = (.done (.found v), c.countHit) := by
  simp [own, ExpiringCache.claim_of_live h]

/-- An owner that finds nothing live populates the key. -/
theorem own_fetch_of_dead {c : ExpiringCache ν} {key : String} {since now : Nat}
    (h : c.live? key now = none) :
    (fetch key).own since now c =
      (.populating (c.find? key).isSome,
        if (c.find? key).isSome then c.countExpired else c) := by
  rw [own, ExpiringCache.claim_of_dead h]
  cases (c.find? key).isSome <;> rfl

/-- Only a removal takes something live away. -/
theorem live?_own (r : Request) {key : String} (hr : r ≠ .remove key) {since now n : Nat}
    (hs : since ≤ n) (c : ExpiringCache ν) :
    (r.own since now c).2.live? key n = c.live? key n := by
  cases r with
  | fetch k =>
    cases hl : c.live? k now with
    | none =>
      rw [own_fetch_of_dead hl]
      cases (c.find? k).isSome <;> rfl
    | some v =>
      rw [own_fetch_of_live hl]
      rfl
  | remove k =>
    have hne : key ≠ k := fun he => hr (he ▸ rfl)
    simp only [own, ExpiringCache.live?, ExpiringCache.find?_drop_of_ne c hne]
  | purge => exact c.live?_purge key hs
  | _ => rfl

/-- A reader has nothing to count. -/
theorem read_ne_counting (r : Request) (now : Nat) (c : ExpiringCache ν) (held : Bool) :
    (r.read now c).1 ≠ .counting held := by
  cases r with
  | fetch key =>
    cases hl : c.live? key now with
    | none => simp [read_fetch_of_dead hl]
    | some v => simp [read_fetch_of_live hl]
  | _ => nofun

/-- An owner that has something to count has removed a key. -/
theorem eq_remove_of_counting {r : Request} {since now : Nat} {c : ExpiringCache ν} {held : Bool}
    (h : (r.own since now c).1 = .counting held) : ∃ key, r = .remove key := by
  cases r with
  | fetch key =>
    cases hl : c.live? key now with
    | none =>
      rw [own_fetch_of_dead hl] at h
      cases h
    | some v =>
      rw [own_fetch_of_live hl] at h
      cases h
  | remove key => exact ⟨key, rfl⟩
  | _ => cases h

end Request

/-! ## Progress -/

/-- How far a caller has come that fetches a key: whether it populates it, and what
it got.  No other caller comes anywhere. -/
def Caller.progress (key : String) (c : Caller ν) : Bool × Option (Answer ν) :=
  if c.request = .fetch key then (c.phase.populates, c.phase.answer?) else (false, none)

namespace Caller

theorem progress_of_fetch {key : String} {c : Caller ν} (h : c.request = .fetch key) :
    c.progress key = (c.phase.populates, c.phase.answer?) :=
  if_pos h

theorem progress_of_ne {key : String} {c : Caller ν} (h : c.request ≠ .fetch key) :
    c.progress key = (false, none) :=
  if_neg h

/-- Two phases that neither populate nor answer are the same progress. -/
theorem progress_idle {c : Caller ν} (hp : c.phase.populates = false)
    (ha : c.phase.answer? = none) (key : String) : c.progress key = (false, none) := by
  by_cases hr : c.request = .fetch key
  · rw [progress_of_fetch hr, hp, ha]
  · exact progress_of_ne hr

/-- A caller that came before a time, and counts a removal only if it wanted one. -/
structure Regular (t : Nat) (c : Caller ν) : Prop where
  since : c.since ≤ t
  counting : ∀ held, c.phase = .counting held → ∃ key, c.request = .remove key

end Caller

namespace Meeting

/-- How far the fetch of a key has come that is made at a position. -/
def progress (m : Meeting ν) (key : String) (i : Nat) : Bool × Option (Answer ν) :=
  m.callers[i]?.elim (false, none) (Caller.progress key)

theorem progress_of_getElem? {m : Meeting ν} {i : Nat} {c : Caller ν}
    (hc : m.callers[i]? = some c) (key : String) : m.progress key i = c.progress key := by
  rw [progress, hc]
  rfl

theorem progress_put {m : Meeting ν} {i : Nat} {c : Caller ν} (hc : m.callers[i]? = some c)
    (cache : ExpiringCache ν) (l : Lock) (c' : Caller ν) (key : String) :
    ({ m with cache := cache, lock := l }.put i c').progress key =
      Function.update (m.progress key) i (c'.progress key) := by
  funext j
  have hget := getElem?_put (m := { m with cache := cache, lock := l }) hc c' j
  by_cases hj : i = j
  · subst hj
    rw [if_pos rfl] at hget
    rw [progress_of_getElem? hget, Function.update_self]
  · rw [if_neg hj] at hget
    rw [Function.update_of_ne (Ne.symm hj), progress, hget]
    rfl

/-- A caller in another phase is no progress if the phase tells nothing new. -/
theorem progress_put_same {m : Meeting ν} {i : Nat} {c c' : Caller ν}
    (hc : m.callers[i]? = some c) (cache : ExpiringCache ν) (l : Lock) {key : String}
    (h : c'.progress key = c.progress key) :
    ({ m with cache := cache, lock := l }.put i c').progress key = m.progress key := by
  rw [progress_put hc, h, ← progress_of_getElem? hc, Function.update_eq_self]

/-- Somebody who has just come has made no progress. -/
theorem progress_come (m : Meeting ν) (r : Request) (now : Nat) (key : String) :
    ({ m with callers := m.callers ++ [⟨r, now, r.start⟩] } : Meeting ν).progress key =
      m.progress key := by
  have hnew : (⟨r, now, r.start⟩ : Caller ν).progress key = (false, none) := by
    refine Caller.progress_idle ?_ ?_ key <;> cases r <;> rfl
  funext i
  rw [progress, progress, List.getElem?_append]
  by_cases hi : i < m.callers.length
  · rw [if_pos hi]
  · rw [if_neg hi, List.getElem?_eq_none (Nat.le_of_not_lt hi)]
    cases i - m.callers.length with
    | zero => exact hnew
    | succ k => rfl

/-! ## Turns -/

/-- What a step can do to a key. -/
inductive Turn (key : String) (m : Meeting ν) (now : Nat) : Step ν → Meeting ν → Prop
  /-- The key keeps what is live, and its fetches keep their progress. -/
  | pass {s : Step ν} {m' : Meeting ν}
      (hl : ∀ n, now ≤ n → m'.cache.live? key n = m.cache.live? key n)
      (hp : m'.progress key = m.progress key) : Turn key m now s m'
  /-- A fetch finds what is live. -/
  | find {m' : Meeting ν} (i : Nat) (v : ν) (hv : m.cache.live? key now = some v)
      (hi : m.progress key i = (false, none))
      (hl : ∀ n, now ≤ n → m'.cache.live? key n = m.cache.live? key n)
      (hp : m'.progress key = Function.update (m.progress key) i (false, some (.found v))) :
      Turn key m now (.proceed i) m'
  /-- A fetch finds nothing live, at a time at which nobody populates, and begins to
  populate the key. -/
  | begin {m' : Meeting ν} (i : Nat) (hv : m.cache.live? key now = none)
      (hn : ∀ j, (m.progress key j).1 = false) (hi : m.progress key i = (false, none))
      (hl : ∀ n, now ≤ n → m'.cache.live? key n = m.cache.live? key n)
      (hp : m'.progress key = Function.update (m.progress key) i (true, none)) :
      Turn key m now (.proceed i) m'
  /-- A population is complete and stored, and lives as long as it says. -/
  | finish {m' : Meeting ν} (i : Nat) (v : ν) (d : Span) (hf : d.fits now = true)
      (hi : m.progress key i = (true, none))
      (hl : ∀ n, m'.cache.live? key n =
        if (Entry.ofPopulation v d now).isLive n then some v else none)
      (hp : m'.progress key = Function.update (m.progress key) i (false, some (.populated v))) :
      Turn key m now (.finish i v d) m'
  /-- A caller is gone without having stored its population. -/
  | drop {s : Step ν} {m' : Meeting ν} {c : Caller ν} (i : Nat)
      (hi : m.progress key i = (true, none))
      (hc : m'.callers[i]? = some c) (hr : c.request = .fetch key) (hg : c.phase = .gone)
      (hl : ∀ n, now ≤ n → m'.cache.live? key n = m.cache.live? key n)
      (hp : m'.progress key = Function.update (m.progress key) i (false, none)) :
      Turn key m now s m'
  /-- The key is removed. -/
  | erase {m' : Meeting ν} {c : Caller ν} (i : Nat) (hc : m.callers[i]? = some c)
      (hr : c.request = .remove key) (hl : ∀ n, m'.cache.live? key n = none)
      (hp : m'.progress key = m.progress key) : Turn key m now (.proceed i) m'

/-! ## Callers stay who they are -/

/-- A caller keeps its request, and the phase that it ends in. -/
theorem Moves.caller {m m' : Meeting ν} {now : Nat} {s : Step ν} (h : Moves m now s m') {j : Nat}
    {c : Caller ν} (hc : m.callers[j]? = some c) :
    ∃ c', m'.callers[j]? = some c' ∧ c'.request = c.request ∧
      (c.phase.isOver = true → c'.phase = c.phase) := by
  -- a step that replaces the caller at `i` finds it in a phase that is not over
  have hput {i : Nat} {d : Caller ν} (hd : m.callers[i]? = some d) (ho : d.phase.isOver = false)
      (cache : ExpiringCache ν) (l : Lock) (p : Phase ν) :
      ∃ c', ({ m with cache := cache, lock := l }.put i { d with phase := p }).callers[j]? =
        some c' ∧ c'.request = c.request ∧ (c.phase.isOver = true → c'.phase = c.phase) := by
    rw [getElem?_put (m := { m with cache := cache, lock := l }) hd]
    by_cases hj : i = j
    · subst hj
      obtain rfl : d = c := Option.some.inj (hd.symm.trans hc)
      exact ⟨_, if_pos rfl, rfl, fun h => by simp [ho] at h⟩
    · exact ⟨c, by rw [if_neg hj]; exact hc, rfl, fun _ => rfl⟩
  cases h with
  | come r =>
    have hj : j < m.callers.length := (List.getElem?_eq_some_iff.1 hc).1
    exact ⟨c, by rw [List.getElem?_append_left hj]; exact hc, rfl, fun _ => rfl⟩
  | share hd hp hl => exact hput hd (by rw [hp]; rfl) _ _ _
  | take hd hp hl => exact hput hd (by rw [hp]; rfl) _ _ _
  | read hd hp => exact hput hd (by rw [hp]; rfl) _ _ _
  | own hd hp => exact hput hd (by rw [hp]; rfl) _ _ _
  | count hd hp => exact hput hd (by rw [hp]; rfl) _ _ _
  | finish value lifetime hd hr hp hf => exact hput hd (by rw [hp]; rfl) _ _ _
  | lose value lifetime hd hr hp hf => exact hput hd (by rw [hp]; rfl) _ _ _
  | leave hd hw => exact hput hd (Phase.isOver_of_waits hw) _ _ _

/-- Along a run a caller keeps its request, and the phase that it ends in. -/
theorem caller_of_run? {m m' : Meeting ν} {history : List (Nat × Step ν)}
    (h : m.run? history = some m') {j : Nat} {c : Caller ν} (hc : m.callers[j]? = some c) :
    ∃ c', m'.callers[j]? = some c' ∧ c'.request = c.request ∧
      (c.phase.isOver = true → c'.phase = c.phase) := by
  refine run?_invariant (P := fun m => ∃ c', m.callers[j]? = some c' ∧
    c'.request = c.request ∧ (c.phase.isOver = true → c'.phase = c.phase)) ?_ h
    ⟨c, hc, rfl, fun _ => rfl⟩
  rintro m₁ m₂ now s ⟨d, hd, hr, hp⟩ hs
  rcases hs.caller hd with ⟨c', hc', hr', hp'⟩
  refine ⟨c', hc', hr'.trans hr, fun ho => ?_⟩
  have hdp := hp ho
  rw [hp' (by rw [hdp]; exact ho), hdp]

/-! ## Meetings in order -/

/-- A meeting that the next step can come to from a time on: its lock agrees with
its callers, who came before and count a removal only if they wanted one. -/
structure Orderly (m : Meeting ν) (t : Nat) : Prop where
  lock : LockAgrees m
  regular : ∀ c ∈ m.callers, c.Regular t

namespace Orderly

theorem start (c : ExpiringCache ν) (t : Nat) : Orderly ({ cache := c } : Meeting ν) t where
  lock := .start c
  regular d hd := by cases hd

/-- Callers are regular after every move. -/
theorem regular_of_moves {m m' : Meeting ν} {t now : Nat} {s : Step ν} (hm : Orderly m t)
    (ht : t ≤ now) (h : Moves m now s m') {c : Caller ν} (hc : c ∈ m'.callers) :
    c.Regular now := by
  have hlater {d : Caller ν} (hd : d ∈ m.callers) : d.since ≤ now :=
    Nat.le_trans (hm.regular d hd).since ht
  have hput {i : Nat} {d : Caller ν} {p : Phase ν} (hd : m.callers[i]? = some d)
      (h : c ∈ m.callers.set i { d with phase := p })
      (hp : ∀ held, p = .counting held → ∃ key, d.request = .remove key) : c.Regular now := by
    rcases List.mem_or_eq_of_mem_set h with h | rfl
    · exact ⟨hlater h, (hm.regular c h).counting⟩
    · exact ⟨hlater (d := d) (List.mem_of_getElem? hd), hp⟩
  cases h with
  | come r =>
    rcases List.mem_append.1 hc with h | h
    · exact ⟨hlater h, (hm.regular c h).counting⟩
    · rw [List.mem_singleton] at h
      subst h
      exact ⟨Nat.le_refl now, fun held he => by cases r <;> cases he⟩
  | share hd hp hl => exact hput hd hc nofun
  | take hd hp hl => exact hput hd hc nofun
  | @read i d hd hp =>
    exact hput hd hc fun held he => absurd he (d.request.read_ne_counting now m.cache held)
  | own hd hp => exact hput hd hc fun held he => Request.eq_remove_of_counting he
  | count hd hp => exact hput hd hc nofun
  | finish value lifetime hd hr hp hf => exact hput hd hc nofun
  | lose value lifetime hd hr hp hf => exact hput hd hc nofun
  | leave hd hw => exact hput hd hc nofun

/-- The next step can come in time again. -/
theorem step {m m' : Meeting ν} {t now : Nat} {s : Step ν} (hm : Orderly m t) (ht : t ≤ now)
    (h : Moves m now s m') : Orderly m' now where
  lock := hm.lock.step h
  regular _ hc := hm.regular_of_moves ht h hc

/-- Along a run in time the meeting stays orderly. -/
theorem run {m e : Meeting ν} {t : Nat} {history : List (Nat × Step ν)} (hm : Orderly m t)
    (ht : Timed t history) (h : m.run? history = some e) : Orderly e (endTime t history) := by
  induction history generalizing m t with
  | nil =>
    cases h
    exact hm
  | cons step rest ih =>
    rcases step with ⟨now, s⟩
    rcases run?_cons h with ⟨m₁, hs, hrest⟩
    exact ih (hm.step ht.1 (moves_of_step? hs)) ht.2 hrest

/-- While a caller owns the lock, no other fetch populates. -/
theorem progress_fst_of_owns {m : Meeting ν} {t : Nat} (hm : Orderly m t) {i j : Nat}
    {c : Caller ν} (hc : m.callers[i]? = some c) (ho : c.phase.owns = true) (hj : j ≠ i)
    (key : String) : (m.progress key j).1 = false := by
  cases hd : m.callers[j]? with
  | none =>
    rw [progress, hd]
    rfl
  | some d =>
    rw [progress_of_getElem? hd]
    by_cases hr : d.request = .fetch key
    · rw [Caller.progress_of_fetch hr]
      cases hp : d.phase with
      | populating stale => exact absurd (hm.lock.eq_of_owns hd hc (by rw [hp]; rfl) ho) hj
      | _ => rfl
    · rw [Caller.progress_of_ne hr]

/-- What a reader does is a turn. -/
theorem turn_read {m : Meeting ν} {now i : Nat} {c : Caller ν} (key : String)
    (hc : m.callers[i]? = some c) (hp : c.phase = .reading) :
    Turn key m now (.proceed i)
      ({ m with cache := (c.request.read now m.cache).2, lock := m.lock.readerLeaves }.put i
        { c with phase := (c.request.read now m.cache).1 }) := by
  have hl : ∀ n, now ≤ n → (c.request.read now m.cache).2.live? key n = m.cache.live? key n :=
    fun n _ => ExpiringCache.live?_of_entries (c.request.entries_read now m.cache) key n
  have hidle : c.progress key = (false, none) :=
    Caller.progress_idle (by rw [hp]; rfl) (by rw [hp]; rfl) key
  by_cases hr : c.request = .fetch key
  · cases hv : m.cache.live? key now with
    | none =>
      refine .pass hl (progress_put_same hc _ _ ?_)
      rw [hidle, hr, Request.read_fetch_of_dead hv]
      exact Caller.progress_of_fetch rfl
    | some v =>
      refine .find i v hv ((progress_of_getElem? hc key).trans hidle) hl ?_
      rw [progress_put hc, hr, Request.read_fetch_of_live hv]
      exact congrArg _ (Caller.progress_of_fetch rfl)
  · refine .pass hl (progress_put_same hc _ _ ?_)
    rw [hidle]
    exact Caller.progress_of_ne hr

/-- What an owner does is a turn. -/
theorem turn_own {m : Meeting ν} {t now i : Nat} {c : Caller ν} (hm : Orderly m t) (ht : t ≤ now)
    (key : String) (hc : m.callers[i]? = some c) (hp : c.phase = .owning) :
    Turn key m now (.proceed i)
      ({ m with
          cache := (c.request.own c.since now m.cache).2
          lock := if (c.request.own c.since now m.cache).1.owns then m.lock else .free }.put i
        { c with phase := (c.request.own c.since now m.cache).1 }) := by
  have hsince : c.since ≤ now := Nat.le_trans (hm.regular c (List.mem_of_getElem? hc)).since ht
  have hidle : c.progress key = (false, none) :=
    Caller.progress_idle (by rw [hp]; rfl) (by rw [hp]; rfl) key
  have hi : m.progress key i = (false, none) := (progress_of_getElem? hc key).trans hidle
  by_cases hremove : c.request = .remove key
  · refine .erase i hc hremove (fun n => ?_) (progress_put_same hc _ _ ?_)
    · rw [hremove]
      simp only [put, Request.own, ExpiringCache.live?, ExpiringCache.find?_drop_self]
      rfl
    · rw [hidle]
      exact Caller.progress_of_ne (by rw [hremove]; exact Request.noConfusion)
  · have hl : ∀ n, now ≤ n →
        (c.request.own c.since now m.cache).2.live? key n = m.cache.live? key n :=
      fun n hn => Request.live?_own _ hremove (Nat.le_trans hsince hn) _
    by_cases hr : c.request = .fetch key
    · cases hv : m.cache.live? key now with
      | none =>
        refine .begin i hv (fun j => ?_) hi hl ?_
        · by_cases hj : j = i
          · rw [hj, hi]
          · exact hm.progress_fst_of_owns hc (by rw [hp]; rfl) hj key
        · rw [progress_put hc, hr, Request.own_fetch_of_dead hv]
          exact congrArg _ (Caller.progress_of_fetch rfl)
      | some v =>
        refine .find i v hv hi hl ?_
        rw [progress_put hc, hr, Request.own_fetch_of_live hv]
        exact congrArg _ (Caller.progress_of_fetch rfl)
    · refine .pass hl (progress_put_same hc _ _ ?_)
      rw [hidle]
      exact Caller.progress_of_ne hr

/-- A population that is stored is a turn. -/
theorem turn_finish {m : Meeting ν} {now i : Nat} {c : Caller ν} {k : String} {stale : Bool}
    (key : String) (v : ν) (d : Span) (hc : m.callers[i]? = some c) (hr : c.request = .fetch k)
    (hp : c.phase = .populating stale) (hf : d.fits now = true) :
    Turn key m now (.finish i v d)
      ({ m with cache := m.cache.store k v d now stale, lock := .free }.put i
        { c with phase := .done (.populated v) }) := by
  by_cases hk : key = k
  · subst hk
    have hi : c.progress key = (true, none) := by
      rw [Caller.progress_of_fetch hr, hp]
      rfl
    refine .finish i v d hf ((progress_of_getElem? hc key).trans hi) (fun n => ?_) ?_
    · exact m.cache.live?_store_self key v d now n stale
    · rw [progress_put hc]
      exact congrArg _ (Caller.progress_of_fetch hr)
  · have hne : c.request ≠ .fetch key := by
      rw [hr]
      exact fun he => hk (Request.fetch.inj he).symm
    refine .pass (fun n _ => m.cache.live?_store_of_ne hk v d now n stale)
      (progress_put_same hc _ _ ?_)
    rw [Caller.progress_of_ne hne]
    exact Caller.progress_of_ne hne

/-- A caller that is dropped or lost is a turn. -/
theorem turn_leave {m : Meeting ν} {now i : Nat} {s : Step ν} {c : Caller ν} (key : String)
    (hc : m.callers[i]? = some c) (hw : c.phase.waits = true) :
    Turn key m now s
      ({ m with lock := m.lockWithout c.phase }.put i { c with phase := .gone }) := by
  have hgone : ({ c with phase := .gone } : Caller ν).progress key = (false, none) :=
    Caller.progress_idle rfl rfl key
  have hanswer : c.phase.answer? = none := by
    cases hp : c.phase with
    | done a => rw [hp] at hw; cases hw
    | _ => rfl
  by_cases hr : c.request = .fetch key
  · cases hpop : c.phase.populates with
    | false =>
      refine .pass (fun n _ => rfl) (progress_put_same hc _ _ ?_)
      rw [hgone, Caller.progress_idle hpop hanswer]
    | true =>
      refine .drop (c := { c with phase := .gone }) i ?_ ?_ hr rfl (fun n _ => rfl) ?_
      · rw [progress_of_getElem? hc, Caller.progress_of_fetch hr, hpop, hanswer]
      · exact getElem?_put_self (m := { m with lock := m.lockWithout c.phase }) hc _
      · rw [progress_put hc, hgone]
  · refine .pass (fun n _ => rfl) (progress_put_same hc _ _ ?_)
    rw [hgone, Caller.progress_of_ne hr]

/-- A step that comes in time is a turn of every key. -/
theorem turn {m m' : Meeting ν} {t now : Nat} {s : Step ν} (hm : Orderly m t) (ht : t ≤ now)
    (h : Moves m now s m') (key : String) : Turn key m now s m' := by
  cases h with
  | come r => exact .pass (fun n _ => rfl) (progress_come m r now key)
  | share hc hp hl =>
    refine .pass (fun n _ => rfl) (progress_put_same hc _ _ ?_)
    rw [Caller.progress_idle rfl rfl,
      Caller.progress_idle (by rw [hp]; rfl) (by rw [hp]; rfl)]
  | take hc hp hl =>
    refine .pass (fun n _ => rfl) (progress_put_same hc _ _ ?_)
    rw [Caller.progress_idle rfl rfl,
      Caller.progress_idle (by rw [hp]; rfl) (by rw [hp]; rfl)]
  | read hc hp => exact turn_read key hc hp
  | own hc hp => exact hm.turn_own ht key hc hp
  | @count i c held hc hp =>
    refine .pass (fun n _ => ?_) (progress_put_same hc _ _ ?_)
    · exact ExpiringCache.live?_of_entries (m.cache.entries_countDrop held) key n
    · rcases (hm.regular c (List.mem_of_getElem? hc)).counting held hp with ⟨k, hr⟩
      have hne : c.request ≠ .fetch key := by
        rw [hr]
        exact Request.noConfusion
      rw [Caller.progress_of_ne hne]
      exact Caller.progress_of_ne hne
  | finish v d hc hr hp hf => exact turn_finish key v d hc hr hp hf
  | lose v d hc hr hp hf => exact turn_leave key hc (by rw [hp]; rfl)
  | leave hc hw => exact turn_leave key hc hw

end Orderly

end Meeting

end SapMonitor.Cache
