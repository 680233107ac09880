import SapMonitor.Proofs.Cache.Turns

/-!
# Populations of a key

A caller begins to populate a key when it owns the lock and finds nothing live.  The
callers that do so in a run are listed here, and what a run leaves of requests and
answers is read off the progress that the fetches of a key have made.

Main results:

- `Meeting.begun_of_owning`: whoever owns the lock and finds nothing live begins to
  populate.
- `Meeting.request?_of_run?`: a caller keeps its request along a run.
-/

namespace SapMonitor.Cache

open Time (Span)

variable {ν : Type}

namespace Meeting

/-! ## Populations -/

/-- The caller that begins to populate a key in a step. -/
def begun (key : String) (m m' : Meeting ν) : Step ν → List Nat
  | .proceed i => if (m'.progress key i).1 && !(m.progress key i).1 then [i] else []
  | _ => []

/-- The callers that begin to populate a key in a run, in order. -/
def populations (key : String) : Meeting ν → List (Nat × Step ν) → List Nat
  | _, [] => []
  | m, (now, s) :: rest =>
    match m.step? now s with
    | none => []
    | some m' => begun key m m' s ++ populations key m' rest

theorem populations_cons {m m' : Meeting ν} {now : Nat} {s : Step ν}
    (h : m.step? now s = some m') (key : String) (rest : List (Nat × Step ν)) :
    populations key m ((now, s) :: rest) = begun key m m' s ++ populations key m' rest := by
  rw [populations, h]

/-- Nobody begins to populate who does not populate afterwards. -/
theorem begun_of_not {key : String} {m m' : Meeting ν} {s : Step ν}
    (h : ∀ i, s = .proceed i → (m'.progress key i).1 = true → (m.progress key i).1 = true) :
    begun key m m' s = [] := by
  cases s with
  | proceed i =>
    refine if_neg fun hb => ?_
    rw [Bool.and_eq_true, Bool.not_eq_true'] at hb
    exact Bool.noConfusion ((h i rfl hb.1).symm.trans hb.2)
  | _ => rfl

theorem begun_of_same {key : String} {m m' : Meeting ν} (h : m'.progress key = m.progress key)
    (s : Step ν) : begun key m m' s = [] :=
  begun_of_not fun _ _ hi => h ▸ hi

/-- Whoever finds something does not begin to populate. -/
theorem begun_of_idle {key : String} {m m' : Meeting ν} {i : Nat} {a : Option (Answer ν)}
    (hp : m'.progress key = Function.update (m.progress key) i (false, a)) :
    begun key m m' (.proceed i) = [] := by
  refine begun_of_not fun j hj htrue => ?_
  cases hj
  rw [hp, Function.update_self] at htrue
  cases htrue

/-- Whoever populates from now on has begun to. -/
theorem begun_of_busy {key : String} {m m' : Meeting ν} {i : Nat} {a b : Option (Answer ν)}
    (hi : m.progress key i = (false, a))
    (hp : m'.progress key = Function.update (m.progress key) i (true, b)) :
    begun key m m' (.proceed i) = [i] := by
  rw [begun, hp, Function.update_self, hi]
  rfl

/-- A caller that has begun to populate went on and populates. -/
theorem eq_proceed_of_begun {key : String} {m m' : Meeting ν} {s : Step ν} {i : Nat}
    (h : begun key m m' s = [i]) : s = .proceed i ∧ (m'.progress key i).1 = true := by
  cases s with
  | proceed j =>
    rw [begun] at h
    split at h
    · rename_i hb
      cases h
      rw [Bool.and_eq_true] at hb
      exact ⟨rfl, hb.1⟩
    · cases h
  | _ => cases h

/-- Whoever owns the lock and finds nothing live begins to populate. -/
theorem begun_of_owning {m m' : Meeting ν} {now i : Nat} {c : Caller ν} {key : String}
    (hc : m.callers[i]? = some c) (hr : c.request = .fetch key) (hp : c.phase = .owning)
    (hv : m.cache.live? key now = none) (h : Moves m now (.proceed i) m') :
    begun key m m' (.proceed i) = [i] := by
  have hbefore : m.progress key i = (false, none) := by
    rw [progress_of_getElem? hc, Caller.progress_of_fetch hr, hp]
    rfl
  cases h with
  | read hd hq =>
    obtain rfl := Option.some.inj (hc.symm.trans hd)
    rw [hp] at hq
    cases hq
  | own hd hq =>
    obtain rfl := Option.some.inj (hc.symm.trans hd)
    have hafter : ({ c with phase := (c.request.own c.since now m.cache).1 } : Caller ν).progress key =
        (true, none) := by
      rw [hr, Request.own_fetch_of_dead hv]
      exact Caller.progress_of_fetch rfl
    have hprogress := progress_put hd (c.request.own c.since now m.cache).2
      (if (c.request.own c.since now m.cache).1.owns then m.lock else .free)
      { c with phase := (c.request.own c.since now m.cache).1 } key
    rw [hafter] at hprogress
    exact begun_of_busy hbefore hprogress
  | count hd hq =>
    obtain rfl := Option.some.inj (hc.symm.trans hd)
    rw [hp] at hq
    cases hq

/-- Whoever looks a key up and finds nothing live queues for the lock. -/
theorem queued_of_reading {m m' : Meeting ν} {now i : Nat} {c : Caller ν} {key : String}
    (hc : m.callers[i]? = some c) (hr : c.request = .fetch key) (hp : c.phase = .reading)
    (hv : m.cache.live? key now = none) (h : Moves m now (.proceed i) m') :
    m'.callers[i]? = some { c with phase := .queued } := by
  cases h with
  | read hd hq =>
    obtain rfl := Option.some.inj (hc.symm.trans hd)
    rw [getElem?_put_self (m := { m with
      cache := (c.request.read now m.cache).2, lock := m.lock.readerLeaves }) hd, hr,
      Request.read_fetch_of_dead hv]
  | own hd hq =>
    obtain rfl := Option.some.inj (hc.symm.trans hd)
    rw [hp] at hq
    cases hq
  | count hd hq =>
    obtain rfl := Option.some.inj (hc.symm.trans hd)
    rw [hp] at hq
    cases hq

/-! ## Requests and answers as progress -/

theorem progress_of_request {m : Meeting ν} {key : String} {i : Nat}
    (h : m.request? i = some (.fetch key)) :
    m.progress key i = (m.isPopulating i, m.answer? i) := by
  rcases Option.map_eq_some_iff.1 h with ⟨c, hc, hr⟩
  rw [progress_of_getElem? hc, Caller.progress_of_fetch hr, isPopulating, answer?, hc]
  rfl

/-- Whoever has made progress fetches the key. -/
theorem request_of_progress {m : Meeting ν} {key : String} {i : Nat}
    (h : m.progress key i ≠ (false, none)) : m.request? i = some (.fetch key) := by
  cases hc : m.callers[i]? with
  | none =>
    rw [progress, hc] at h
    exact absurd rfl h
  | some c =>
    rw [progress_of_getElem? hc] at h
    by_cases hr : c.request = .fetch key
    · rw [request?, hc, Option.map_some, hr]
    · exact absurd (Caller.progress_of_ne hr) h

theorem request?_of_run? {m e : Meeting ν} {history : List (Nat × Step ν)}
    (h : m.run? history = some e) {i : Nat} {r : Request} (hr : m.request? i = some r) :
    e.request? i = some r := by
  rcases Option.map_eq_some_iff.1 hr with ⟨c, hc, rfl⟩
  rcases caller_of_run? h hc with ⟨c', hc', hr', -⟩
  rw [request?, hc', Option.map_some, hr']

/-- Whoever has made progress fetches the key, also when the run ends. -/
theorem request_of_progress_run? {m e : Meeting ν} {history : List (Nat × Step ν)}
    (h : m.run? history = some e) {key : String} {i : Nat} {a : Bool × Option (Answer ν)}
    (hp : m.progress key i = a) (ha : a ≠ (false, none)) : e.request? i = some (.fetch key) :=
  request?_of_run? h (request_of_progress (hp ▸ ha))

/-- Nobody removes a key who does not want to when the run ends. -/
theorem ne_remove_of_run? {m e : Meeting ν} {history : List (Nat × Step ν)}
    (h : m.run? history = some e) {key : String} (hkept : ∀ i, e.request? i ≠ some (.remove key))
    {i : Nat} {c : Caller ν} (hc : m.callers[i]? = some c) : c.request ≠ .remove key := by
  intro hr
  refine hkept i (request?_of_run? h ?_)
  rw [request?, hc, Option.map_some, hr]

end Meeting

end SapMonitor.Cache
