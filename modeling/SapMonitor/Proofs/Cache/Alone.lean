import SapMonitor.Proofs.Cache.Windows

/-!
# One caller at a time

A caller that comes when nobody holds the lock can be served before anybody else does
anything.  The reads of a program that does one thing after the other are runs of this
kind, so what holds for all runs of readers holds for them.

Main results:

- `Meeting.run?_fetch_of_live`, `Meeting.run?_fetch_of_dead`, `Meeting.run?_fetch_of_lost`
  and `Meeting.run?_purge`: the visits of a caller that is alone.
- `Meeting.Mirrors.find`, `Meeting.Mirrors.populate`, `Meeting.Mirrors.lose` and
  `Meeting.Mirrors.purge`: what a visit does to the cache, a run of readers does too.
-/

namespace SapMonitor.Cache

open Time (Span)

variable {ν : Type}

namespace Meeting

/-! ## Visits -/

/-- A caller that is alone finds what is live. -/
theorem run?_fetch_of_live {m : Meeting ν} {now : Nat} {key : String} {v : ν}
    (hl : m.lock = .free) (hv : m.cache.live? key now = some v) :
    m.run? [(now, .come (.fetch key)), (now, .grant m.callers.length),
        (now, .proceed m.callers.length)] =
      some { cache := m.cache.countHit
             callers := m.callers ++ [⟨.fetch key, now, .done (.found v)⟩] } := by
  simp [run?, step?, grant?, proceed?, put, hl, Lock.free, Lock.readerLeaves, Request.start,
    Request.read_fetch_of_live hv]

/-- A claim of a key without a live entry counts an entry that is dead. -/
theorem claim_snd_of_dead {c : ExpiringCache ν} {key : String} {now : Nat}
    (hv : c.live? key now = none) :
    (c.claim key now).2 = if (c.find? key).isSome then c.countExpired else c := by
  rw [ExpiringCache.claim_of_dead hv]
  split <;> rfl

/-- A caller that is alone and finds nothing live populates the key. -/
theorem run?_fetch_of_dead {m : Meeting ν} {now : Nat} {key : String} {later : Nat} (v : ν)
    {d : Span} (hl : m.lock = .free) (hv : m.cache.live? key now = none)
    (hf : d.fits later = true) :
    m.run? [(now, .come (.fetch key)), (now, .grant m.callers.length),
        (now, .proceed m.callers.length), (now, .grant m.callers.length),
        (now, .proceed m.callers.length), (later, .finish m.callers.length v d)] =
      some { cache := (m.cache.claim key now).2.store key v d later (m.cache.find? key).isSome
             callers := m.callers ++ [⟨.fetch key, now, .done (.populated v)⟩] } := by
  simp [run?, step?, grant?, proceed?, finish?, put, hl, hf, Lock.free, Lock.readerLeaves,
    Request.start, Request.read_fetch_of_dead hv, Request.own_fetch_of_dead hv, Phase.owns,
    claim_snd_of_dead hv]

/-- A caller that is alone and finds nothing live can be lost while it populates the key. -/
theorem run?_fetch_of_lost {m : Meeting ν} {now : Nat} {key : String} (later : Nat)
    (hl : m.lock = .free) (hv : m.cache.live? key now = none) :
    m.run? [(now, .come (.fetch key)), (now, .grant m.callers.length),
        (now, .proceed m.callers.length), (now, .grant m.callers.length),
        (now, .proceed m.callers.length), (later, .leave m.callers.length)] =
      some { cache := (m.cache.claim key now).2
             callers := m.callers ++ [⟨.fetch key, now, .gone⟩] } := by
  simp [run?, step?, grant?, proceed?, leave?, put, hl, Lock.free, Lock.readerLeaves,
    lockWithout, Request.start, Request.read_fetch_of_dead hv, Request.own_fetch_of_dead hv,
    Phase.owns, Phase.reads, Phase.waits, claim_snd_of_dead hv]

/-- A sweep that is alone. -/
theorem run?_purge {m : Meeting ν} (now : Nat) (hl : m.lock = .free) :
    m.run? [(now, .come .purge), (now, .grant m.callers.length),
        (now, .proceed m.callers.length)] =
      some { cache := (m.cache.purge now).2
             callers := m.callers ++ [⟨.purge, now, .done (.swept (m.cache.purge now).1)⟩] } := by
  simp [run?, step?, grant?, proceed?, put, hl, Lock.free, Request.start, Request.own, Phase.owns]

/-! ## Requests -/

/-- One more caller wants what it wants; the others want what they wanted. -/
theorem request?_concat {callers : List (Caller ν)} {c : Caller ν} {cache : ExpiringCache ν}
    {l : Lock} {i : Nat} {r : Request}
    (h : ({ cache := cache, callers := callers ++ [c], lock := l } : Meeting ν).request? i = some r) :
    (callers[i]?.map Caller.request = some r) ∨ (i = callers.length ∧ r = c.request) := by
  rw [request?, List.getElem?_append] at h
  by_cases hi : i < callers.length
  · rw [if_pos hi] at h
    exact .inl h
  · rw [if_neg hi] at h
    have hone : i - callers.length = 0 := by
      by_contra hne
      rw [List.getElem?_eq_none (by simp only [List.length_singleton]; omega)] at h
      cases h
    rw [hone] at h
    refine .inr ⟨by omega, ?_⟩
    exact (Option.some.inj h).symm

/-- A population that was complete in a run was somebody's. -/
theorem request?_of_finish {m e : Meeting ν} {history : List (Nat × Step ν)} {t i : Nat} {v : ν}
    {d : Span} (h : m.run? history = some e) (hmem : (t, Step.finish i v d) ∈ history) :
    ∃ key, e.request? i = some (.fetch key) := by
  induction history generalizing m with
  | nil => cases hmem
  | cons step rest ih =>
    rcases step with ⟨now, s⟩
    rcases run?_cons h with ⟨m', hs, hrest⟩
    rcases List.mem_cons.1 hmem with hhead | htail
    · cases hhead
      have hrequest {c : Caller ν} {key : String} (hc : m.callers[i]? = some c)
          (hr : c.request = .fetch key) : m.request? i = some (.fetch key) := by
        rw [request?, hc, Option.map_some, hr]
      cases moves_of_step? hs with
      | finish _ _ hc hr hp hf => exact ⟨_, request?_of_run? h (hrequest hc hr)⟩
      | lose _ _ hc hr hp hf => exact ⟨_, request?_of_run? h (hrequest hc hr)⟩
    · exact ih hrest htail

/-! ## Runs that mirror a cache -/

/-- A run of readers that ends by now with a cache that nobody is at. -/
structure Mirrors (feeds : String → ν → Span → Prop) (name : String) (start : Nat)
    (c : ExpiringCache ν) (now : Nat) (history : List (Nat × Step ν)) (e : Meeting ν) : Prop where
  readers : Readers feeds name start history e
  free : e.lock = .free
  cache : e.cache = c
  time : endTime start history ≤ now

/-- The run goes on, until it mirrors another cache at a later time. -/
def GoesOn (feeds : String → ν → Span → Prop) (name : String) (start : Nat)
    (history : List (Nat × Step ν)) (e : Meeting ν) (c : ExpiringCache ν) (now : Nat) : Prop :=
  ∃ more e', e.run? more = some e' ∧ Mirrors feeds name start c now (history ++ more) e'

namespace Mirrors

variable {feeds : String → ν → Span → Prop} {name : String} {start now : Nat}
  {c : ExpiringCache ν} {history : List (Nat × Step ν)} {e : Meeting ν}

/-- A cache without entries is mirrored before anybody comes. -/
theorem opened (feeds : String → ν → Span → Prop) (name : String) (now : Nat) :
    Mirrors feeds name now (.empty name) now [] { cache := .empty name } where
  readers := ⟨trivial, rfl, nofun, nofun⟩
  free := rfl
  cache := rfl
  time := Nat.le_refl now

/-- One more caller is served, which removes nothing and populates only what feeds allow. -/
theorem serve (h : Mirrors feeds name start c now history e) {more : List (Nat × Step ν)}
    {c' : ExpiringCache ν} {x : Caller ν} {later : Nat}
    (hrun : e.run? more = some { cache := c', callers := e.callers ++ [x] })
    (ht : Timed (endTime start history) more) (hend : endTime (endTime start history) more ≤ later)
    (hx : ∀ key, x.request ≠ .remove key)
    (hfed : ∀ t i v d key, (t, Step.finish i v d) ∈ more → x.request = .fetch key → feeds key v d)
    (hown : ∀ t i v d, (t, Step.finish i v d) ∈ more → i = e.callers.length) :
    Mirrors feeds name start c' later (history ++ more)
      { cache := c', callers := e.callers ++ [x] } := by
  refine ⟨⟨timed_append.2 ⟨h.readers.timed, ht⟩, ?_, ?_, ?_⟩, rfl, rfl, ?_⟩
  · rw [run?_append, h.readers.run]
    exact hrun
  · intro i key hr
    rcases request?_concat hr with hold | ⟨-, hnew⟩
    · exact h.readers.kept i key hold
    · exact hx key hnew.symm
  · intro t i v d key hmem hr
    rcases List.mem_append.1 hmem with hbefore | hafter
    · rcases request?_of_finish h.readers.run hbefore with ⟨k, hk⟩
      have hsame := request?_of_run? hrun hk
      rw [hr] at hsame
      rw [← hsame] at hk
      exact h.readers.fed t i v d key hbefore hk
    · rcases request?_concat hr with hold | ⟨-, hnew⟩
      · have hi := hown t i v d hafter
        rw [hi, List.getElem?_eq_none (Nat.le_refl _)] at hold
        cases hold
      · exact hfed t i v d key hafter hnew.symm
  · rw [endTime_append]
    exact hend

/-- Time goes by. -/
theorem later (h : Mirrors feeds name start c now history e) {later : Nat} (hn : now ≤ later) :
    GoesOn feeds name start history e c later := by
  refine ⟨[], e, rfl, ?_⟩
  rw [List.append_nil]
  exact ⟨h.readers, h.free, h.cache, Nat.le_trans h.time hn⟩

/-- A read that finds something live. -/
theorem find (h : Mirrors feeds name start c now history e) {key : String} {v : ν}
    (hv : c.live? key now = some v) : GoesOn feeds name start history e c.countHit now := by
  obtain rfl := h.cache
  refine ⟨_, _, run?_fetch_of_live h.free hv, h.serve (run?_fetch_of_live h.free hv) ?_ ?_ ?_ ?_ ?_⟩
  · exact ⟨h.time, Nat.le_refl now, Nat.le_refl now, trivial⟩
  · exact Nat.le_refl now
  · intro k hk
    cases hk
  · intro t i v d k hmem
    simp at hmem
  · intro t i v d hmem
    simp at hmem

/-- A read that finds nothing live and populates the key. -/
theorem populate (h : Mirrors feeds name start c now history e) {key : String} {v : ν} {d : Span}
    {later : Nat} (hv : c.live? key now = none) (hn : now ≤ later) (hf : d.fits later = true)
    (hfeeds : feeds key v d) :
    GoesOn feeds name start history e
      ((c.claim key now).2.store key v d later (c.find? key).isSome) later := by
  obtain rfl := h.cache
  have hrun := run?_fetch_of_dead v h.free hv hf
  have hlast {t i : Nat} {v' : ν} {d' : Span}
      (hmem : (t, Step.finish i v' d') ∈
        [(now, .come (.fetch key)), (now, .grant e.callers.length),
          (now, .proceed e.callers.length), (now, .grant e.callers.length),
          (now, .proceed e.callers.length), (later, .finish e.callers.length v d)]) :
      i = e.callers.length ∧ v' = v ∧ d' = d := by
    simp only [List.mem_cons, Prod.mk.injEq, reduceCtorEq, and_false, false_or, Step.finish.injEq,
      List.not_mem_nil, or_false] at hmem
    exact hmem.2
  refine ⟨_, _, hrun, h.serve hrun ?_ ?_ ?_ ?_ ?_⟩
  · exact ⟨h.time, Nat.le_refl now, Nat.le_refl now, Nat.le_refl now, Nat.le_refl now, hn, trivial⟩
  · exact Nat.le_refl later
  · intro k hk
    cases hk
  · intro t i v' d' k hmem hk
    rcases hlast hmem with ⟨-, rfl, rfl⟩
    cases hk
    exact hfeeds
  · intro t i v' d' hmem
    exact (hlast hmem).1

/-- A read that finds nothing live and is lost while it populates the key. -/
theorem lose (h : Mirrors feeds name start c now history e) {key : String} {later : Nat}
    (hv : c.live? key now = none) (hn : now ≤ later) :
    GoesOn feeds name start history e (c.claim key now).2 later := by
  obtain rfl := h.cache
  have hrun := run?_fetch_of_lost later h.free hv
  refine ⟨_, _, hrun, h.serve hrun ?_ ?_ ?_ ?_ ?_⟩
  · exact ⟨h.time, Nat.le_refl now, Nat.le_refl now, Nat.le_refl now, Nat.le_refl now, hn, trivial⟩
  · exact Nat.le_refl later
  · intro k hk
    cases hk
  · intro t i v d k hmem
    simp at hmem
  · intro t i v d hmem
    simp at hmem

/-- A sweep. -/
theorem purge (h : Mirrors feeds name start c now history e) :
    GoesOn feeds name start history e (c.purge now).2 now := by
  obtain rfl := h.cache
  refine ⟨_, _, run?_purge now h.free, h.serve (run?_purge now h.free) ?_ ?_ ?_ ?_ ?_⟩
  · exact ⟨h.time, Nat.le_refl now, Nat.le_refl now, trivial⟩
  · exact Nat.le_refl now
  · intro k hk
    cases hk
  · intro t i v d k hmem
    simp at hmem
  · intro t i v d hmem
    simp at hmem

end Mirrors

/-- Whoever goes on twice goes on. -/
theorem GoesOn.trans {feeds : String → ν → Span → Prop} {name : String} {start now : Nat}
    {c : ExpiringCache ν} {history more : List (Nat × Step ν)} {e e' : Meeting ν}
    (hrun : e.run? more = some e') (h : GoesOn feeds name start (history ++ more) e' c now) :
    GoesOn feeds name start history e c now := by
  rcases h with ⟨rest, e'', hrest, hm⟩
  refine ⟨more ++ rest, e'', ?_, ?_⟩
  · rw [run?_append, hrun]
    exact hrest
  · rw [← List.append_assoc]
    exact hm

end Meeting

end SapMonitor.Cache
