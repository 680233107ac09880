import SapMonitor.Cache.Callers

/-!
# The moves of a meeting

A step of a meeting is one of nine moves.  They are listed here once, with all
that has to be true for them and all that they change; every invariant of a
meeting is proved by cases on them.

The first invariant is about the lock: the caller that owns it is the one whose
phase says so, and the readers that it counts are those whose phases say so.
Nothing in the phases of two callers rules out that both own the lock, or that
one reads while another owns it; the lock does.

Main results:

- `Meeting.moves_of_step?`: a step is one of the moves.
- `Meeting.run?_invariant`: what every step keeps, every run keeps.
- `Meeting.LockAgrees.run`: along every run the lock agrees with the phases.
- `Meeting.LockAgrees.eq_of_owns`: two callers that own the lock are one.
-/

namespace SapMonitor.Cache

open Time (Span)

variable {ν : Type}

/-! ## Phases that are over -/

/-- Whether a caller has nothing more to do. -/
def Phase.isOver : Phase ν → Bool
  | done _ => true
  | gone => true
  | _ => false

/-- Whoever waits has something to do. -/
theorem Phase.isOver_of_waits {p : Phase ν} (h : p.waits = true) : p.isOver = false := by
  cases p with
  | done a => cases h
  | gone => cases h
  | _ => rfl

namespace Meeting

/-! ## Replacing a caller -/

theorem getElem?_put {m : Meeting ν} {i : Nat} {c : Caller ν} (hc : m.callers[i]? = some c)
    (c' : Caller ν) (j : Nat) :
    (m.put i c').callers[j]? = if i = j then some c' else m.callers[j]? := by
  have hi : i < m.callers.length := (List.getElem?_eq_some_iff.1 hc).1
  by_cases hj : i = j
  · subst hj
    simp [put, hi]
  · simp [put, hj]

theorem getElem?_put_self {m : Meeting ν} {i : Nat} {c : Caller ν} (hc : m.callers[i]? = some c)
    (c' : Caller ν) : (m.put i c').callers[i]? = some c' := by
  rw [getElem?_put hc, if_pos rfl]

/-- Replacing a caller changes a count by that caller only. -/
theorem countP_put {m : Meeting ν} {i : Nat} {c : Caller ν} (hc : m.callers[i]? = some c)
    (c' : Caller ν) (p : Caller ν → Bool) :
    (m.put i c').callers.countP p + (if p c then 1 else 0) =
      m.callers.countP p + (if p c' then 1 else 0) := by
  rcases List.getElem?_eq_some_iff.1 hc with ⟨hi, hget⟩
  have hpos : (if p c then 1 else 0) ≤ m.callers.countP p := by
    split
    · rename_i hp
      exact List.countP_pos_iff.2 ⟨c, List.mem_of_getElem? hc, hp⟩
    · exact Nat.zero_le _
  rw [put, List.countP_set hi, hget]
  omega

/-! ## Moves -/

/-- What a step can do, with all that has to be true for it. -/
inductive Moves (m : Meeting ν) (now : Nat) : Step ν → Meeting ν → Prop
  | come (r : Request) :
      Moves m now (.come r) { m with callers := m.callers ++ [⟨r, now, r.start⟩] }
  | share {i n : Nat} {c : Caller ν} (hc : m.callers[i]? = some c) (hp : c.phase = .arrived)
      (hl : m.lock = .together n) :
      Moves m now (.grant i)
        ({ m with lock := .together (n + 1) }.put i { c with phase := .reading })
  | take {i : Nat} {c : Caller ν} (hc : m.callers[i]? = some c) (hp : c.phase = .queued)
      (hl : m.lock = .free) :
      Moves m now (.grant i) ({ m with lock := .alone i }.put i { c with phase := .owning })
  | read {i : Nat} {c : Caller ν} (hc : m.callers[i]? = some c) (hp : c.phase = .reading) :
      Moves m now (.proceed i)
        ({ m with cache := (c.request.read now m.cache).2, lock := m.lock.readerLeaves }.put i
          { c with phase := (c.request.read now m.cache).1 })
  | own {i : Nat} {c : Caller ν} (hc : m.callers[i]? = some c) (hp : c.phase = .owning) :
      Moves m now (.proceed i)
        ({ m with
            cache := (c.request.own c.since now m.cache).2
            lock := if (c.request.own c.since now m.cache).1.owns then m.lock else .free }.put i
          { c with phase := (c.request.own c.since now m.cache).1 })
  | count {i : Nat} {c : Caller ν} {held : Bool} (hc : m.callers[i]? = some c)
      (hp : c.phase = .counting held) :
      Moves m now (.proceed i)
        ({ m with cache := m.cache.countDrop held }.put i
          { c with phase := .done (.removed held) })
  | finish {i : Nat} {c : Caller ν} {key : String} {stale : Bool} (value : ν) (lifetime : Span)
      (hc : m.callers[i]? = some c) (hr : c.request = .fetch key)
      (hp : c.phase = .populating stale) (hf : lifetime.fits now = true) :
      Moves m now (.finish i value lifetime)
        ({ m with cache := m.cache.store key value lifetime now stale, lock := .free }.put i
          { c with phase := .done (.populated value) })
  | lose {i : Nat} {c : Caller ν} {key : String} {stale : Bool} (value : ν) (lifetime : Span)
      (hc : m.callers[i]? = some c) (hr : c.request = .fetch key)
      (hp : c.phase = .populating stale) (hf : lifetime.fits now = false) :
      Moves m now (.finish i value lifetime)
        ({ m with lock := m.lockWithout c.phase }.put i { c with phase := .gone })
  | leave {i : Nat} {c : Caller ν} (hc : m.callers[i]? = some c) (hw : c.phase.waits = true) :
      Moves m now (.leave i)
        ({ m with lock := m.lockWithout c.phase }.put i { c with phase := .gone })

theorem moves_of_grant? {m m' : Meeting ν} {i : Nat} (now : Nat) (h : m.grant? i = some m') :
    Moves m now (.grant i) m' := by
  unfold grant? at h
  split at h
  · cases h
  · rename_i c hc
    split at h
    · rename_i n hp hl
      cases h
      exact .share hc hp hl
    · rename_i hp hl
      cases h
      exact .take hc hp hl
    · cases h

theorem moves_of_proceed? {m m' : Meeting ν} {now i : Nat} (h : m.proceed? now i = some m') :
    Moves m now (.proceed i) m' := by
  unfold proceed? at h
  split at h
  · cases h
  · rename_i c hc
    split at h
    · rename_i hp
      cases h
      exact .read hc hp
    · rename_i hp
      cases h
      exact .own hc hp
    · rename_i held hp
      cases h
      exact .count hc hp
    · cases h

/-- A caller that waits can be dropped. -/
theorem leave?_of_waits {m : Meeting ν} {i : Nat} {c : Caller ν} (hc : m.callers[i]? = some c)
    (hw : c.phase.waits = true) :
    m.leave? i =
      some ({ m with lock := m.lockWithout c.phase }.put i { c with phase := .gone }) := by
  simp only [leave?, hc, hw, ↓reduceIte]

theorem moves_of_finish? {m m' : Meeting ν} {now i : Nat} {value : ν} {lifetime : Span}
    (h : m.finish? now i value lifetime = some m') :
    Moves m now (.finish i value lifetime) m' := by
  unfold finish? at h
  split at h
  · cases h
  · rename_i c hc
    split at h
    · rename_i key stale hr hp
      split at h
      · rename_i hf
        cases h
        exact .finish value lifetime hc hr hp hf
      · rename_i hf
        rw [leave?_of_waits hc (by rw [hp]; rfl)] at h
        cases h
        exact .lose value lifetime hc hr hp (Bool.eq_false_iff.2 hf)
    · cases h

theorem moves_of_leave? {m m' : Meeting ν} {i : Nat} (now : Nat) (h : m.leave? i = some m') :
    Moves m now (.leave i) m' := by
  unfold leave? at h
  split at h
  · cases h
  · rename_i c hc
    split at h
    · rename_i hw
      cases h
      exact .leave hc hw
    · cases h

/-- A step is one of the moves. -/
theorem moves_of_step? {m m' : Meeting ν} {now : Nat} {s : Step ν}
    (h : m.step? now s = some m') : Moves m now s m' := by
  cases s with
  | come r =>
    cases h
    exact .come r
  | grant i => exact moves_of_grant? now h
  | proceed i => exact moves_of_proceed? h
  | finish i value lifetime => exact moves_of_finish? h
  | leave i => exact moves_of_leave? now h

/-! ## Runs -/

/-- The times of a run never go back. -/
def Timed : Nat → List (Nat × Step ν) → Prop
  | _, [] => True
  | t, (now, _) :: rest => t ≤ now ∧ Timed now rest

/-- The time at which a run ends that begins at a time. -/
def endTime : Nat → List (Nat × Step ν) → Nat
  | t, [] => t
  | _, (now, _) :: rest => endTime now rest

theorem endTime_append (t : Nat) (before after : List (Nat × Step ν)) :
    endTime t (before ++ after) = endTime (endTime t before) after := by
  induction before generalizing t with
  | nil => rfl
  | cons step before ih => exact ih step.1

theorem timed_append {t : Nat} {before after : List (Nat × Step ν)} :
    Timed t (before ++ after) ↔ Timed t before ∧ Timed (endTime t before) after := by
  induction before generalizing t with
  | nil => simp [Timed, endTime]
  | cons step before ih =>
    rcases step with ⟨now, s⟩
    simp only [List.cons_append, Timed, ih, endTime, and_assoc]

theorem run?_cons {m m' : Meeting ν} {now : Nat} {s : Step ν} {rest : List (Nat × Step ν)}
    (h : m.run? ((now, s) :: rest) = some m') :
    ∃ m₁, m.step? now s = some m₁ ∧ m₁.run? rest = some m' :=
  Option.bind_eq_some_iff.1 h

theorem run?_cons_of {m m₁ m' : Meeting ν} {now : Nat} {s : Step ν} {rest : List (Nat × Step ν)}
    (hs : m.step? now s = some m₁) (h : m₁.run? rest = some m') :
    m.run? ((now, s) :: rest) = some m' := by
  rw [run?, hs]
  exact h

/-- What every step keeps, every run keeps. -/
theorem run?_invariant {P : Meeting ν → Prop}
    (hstep : ∀ {m m' : Meeting ν} {now : Nat} {s : Step ν}, P m → Moves m now s m' → P m')
    {m m' : Meeting ν} {history : List (Nat × Step ν)} (h : m.run? history = some m')
    (hm : P m) : P m' := by
  induction history generalizing m with
  | nil =>
    cases h
    exact hm
  | cons e rest ih =>
    rcases e with ⟨now, s⟩
    rcases run?_cons h with ⟨m₁, hs, hr⟩
    exact ih hr (hstep hm (moves_of_step? hs))

/-! ## The lock -/

/-- The lock says what the callers do with it. -/
structure LockAgrees (m : Meeting ν) : Prop where
  owner : ∀ i, (m.callers[i]?.any fun c => c.phase.owns) = true ↔ m.lock = .alone i
  readers : m.callers.countP (fun c => c.phase.reads) = m.lock.readers

namespace LockAgrees

/-- Nobody holds the lock before anybody comes. -/
theorem start (c : ExpiringCache ν) : LockAgrees ({ cache := c } : Meeting ν) where
  owner i := by simp [Lock.free]
  readers := rfl

/-- A caller that owns the lock is its owner. -/
theorem lock_eq {m : Meeting ν} (hm : LockAgrees m) {i : Nat} {c : Caller ν}
    (hc : m.callers[i]? = some c) (ho : c.phase.owns = true) : m.lock = .alone i :=
  (hm.owner i).1 (by simp [hc, ho])

/-- A caller that does not own the lock is not its owner. -/
theorem lock_ne {m : Meeting ν} (hm : LockAgrees m) {i : Nat} {c : Caller ν}
    (hc : m.callers[i]? = some c) (ho : c.phase.owns = false) : m.lock ≠ .alone i := by
  intro hl
  have howns := (hm.owner i).2 hl
  simp [hc, ho] at howns

/-- Two callers that own the lock are one. -/
theorem eq_of_owns {m : Meeting ν} (hm : LockAgrees m) {i j : Nat} {c d : Caller ν}
    (hc : m.callers[i]? = some c) (hd : m.callers[j]? = some d)
    (ho : c.phase.owns = true) (ho' : d.phase.owns = true) : i = j :=
  Lock.alone.inj ((hm.lock_eq hc ho).symm.trans (hm.lock_eq hd ho'))

/-- While a caller owns the lock, nobody reads. -/
theorem reads_of_alone {m : Meeting ν} (hm : LockAgrees m) {i j : Nat} {c : Caller ν}
    (hl : m.lock = .alone j) (hc : m.callers[i]? = some c) : c.phase.reads = false := by
  have hzero : m.callers.countP (fun c => c.phase.reads) = 0 := by
    rw [hm.readers, hl]
    rfl
  have hnot := List.countP_eq_zero.1 hzero c (List.mem_of_getElem? hc)
  simpa using hnot

/-- A reader shares the lock. -/
theorem together_of_reads {m : Meeting ν} (hm : LockAgrees m) {i : Nat} {c : Caller ν}
    (hc : m.callers[i]? = some c) (hr : c.phase.reads = true) :
    ∃ n, m.lock = .together (n + 1) := by
  cases hl : m.lock with
  | alone j => simp [hm.reads_of_alone hl hc] at hr
  | together n =>
    have hpos : 0 < m.callers.countP (fun c => c.phase.reads) :=
      List.countP_pos_iff.2 ⟨c, List.mem_of_getElem? hc, hr⟩
    rw [hm.readers, hl, Lock.readers] at hpos
    exact ⟨n - 1, by rw [Nat.sub_add_cancel hpos]⟩

/-- The lock agrees with a caller in a new phase if it changes with that caller
only. -/
theorem put {m : Meeting ν} (hm : LockAgrees m) {i : Nat} {c : Caller ν}
    (hc : m.callers[i]? = some c) (cache : ExpiringCache ν) (l : Lock) (p : Phase ν)
    (howner : ∀ j, l = .alone j ↔ if i = j then p.owns = true else m.lock = .alone j)
    (hreaders : l.readers + (if c.phase.reads then 1 else 0) =
      m.lock.readers + (if p.reads then 1 else 0)) :
    LockAgrees ({ m with cache := cache, lock := l }.put i { c with phase := p }) where
  owner j := by
    have hget := getElem?_put (m := { m with cache := cache, lock := l }) hc { c with phase := p } j
    rw [hget]
    refine Iff.trans ?_ (howner j).symm
    by_cases hj : i = j
    · simp [hj]
    · simpa [hj] using hm.owner j
  readers := by
    have hcount := countP_put (m := { m with cache := cache, lock := l }) hc { c with phase := p }
      fun c => c.phase.reads
    have hold := hm.readers
    simp only at hcount hreaders ⊢
    change _ = l.readers
    omega

/-- A caller that comes does not touch the lock. -/
theorem come {m : Meeting ν} (hm : LockAgrees m) (r : Request) (now : Nat) :
    LockAgrees { m with callers := m.callers ++ [⟨r, now, r.start⟩] } where
  owner i := by
    rw [← hm.owner i, List.getElem?_append]
    by_cases hi : i < m.callers.length
    · simp [hi]
    · have hnone : m.callers[i]? = none := List.getElem?_eq_none (Nat.le_of_not_lt hi)
      simp only [hi, ↓reduceIte, hnone, Option.any_none]
      cases hk : i - m.callers.length with
      | zero => cases r <;> simp [Request.start, Phase.owns]
      | succ k => simp
  readers := by
    rw [List.countP_append, hm.readers]
    cases r <;> simp [Request.start, Phase.reads]

/-- Reading ends with an answer or in the queue. -/
theorem reads_read (r : Request) (now : Nat) (c : ExpiringCache ν) :
    (r.read now c).1.reads = false ∧ (r.read now c).1.owns = false := by
  cases r with
  | fetch key =>
    unfold Request.read
    simp only
    split <;> exact ⟨rfl, rfl⟩
  | _ => exact ⟨rfl, rfl⟩

/-- An owner does not read. -/
theorem reads_own (r : Request) (since now : Nat) (c : ExpiringCache ν) :
    (r.own since now c).1.reads = false := by
  cases r with
  | fetch key =>
    unfold Request.own
    simp only
    split <;> rfl
  | _ => rfl

/-- A caller that is dropped gives back what it holds. -/
theorem leave {m : Meeting ν} (hm : LockAgrees m) {i : Nat} {c : Caller ν}
    (hc : m.callers[i]? = some c) :
    LockAgrees ({ m with lock := m.lockWithout c.phase }.put i { c with phase := .gone }) := by
  have hgr : (Phase.gone : Phase ν).reads = false := rfl
  have hgo : (Phase.gone : Phase ν).owns = false := rfl
  cases hreads : c.phase.reads with
  | true =>
    rcases hm.together_of_reads hc hreads with ⟨n, hl⟩
    have hwithout : m.lockWithout c.phase = .together n := by
      simp [lockWithout, hreads, hl, Lock.readerLeaves]
    refine hm.put hc _ _ _ (fun j => ?_) ?_
    · simp [hwithout, hl, hgo]
    · simp [hwithout, hl, hreads, hgr, Lock.readers]
  | false =>
    cases howns : c.phase.owns with
    | true =>
      have hl := hm.lock_eq hc howns
      have hwithout : m.lockWithout c.phase = .free := by
        simp [lockWithout, hreads, howns]
      refine hm.put hc _ _ _ (fun j => ?_) ?_
      · simp [hwithout, hl, hgo, Lock.free]
      · simp [hwithout, hl, hreads, hgr, Lock.free, Lock.readers]
    | false =>
      have hne := hm.lock_ne hc howns
      have hwithout : m.lockWithout c.phase = m.lock := by
        simp [lockWithout, hreads, howns]
      refine hm.put hc _ _ _ (fun j => ?_) ?_
      · by_cases hj : i = j
        · subst hj
          simp [hwithout, hne, hgo]
        · simp [hwithout, hj]
      · simp [hwithout, hreads, hgr]

/-- The lock agrees with the phases after every move. -/
theorem step {m m' : Meeting ν} {now : Nat} {s : Step ν} (hm : LockAgrees m)
    (h : Moves m now s m') : LockAgrees m' := by
  cases h with
  | come r => exact hm.come r now
  | share hc hp hl =>
    refine hm.put hc _ _ _ (fun j => ?_) ?_
    · simp [hl, Phase.owns]
    · simp [hl, hp, Lock.readers, Phase.reads]
  | take hc hp hl =>
    refine hm.put hc _ _ _ (fun j => ?_) ?_
    · simp [hl, Lock.free, Phase.owns]
    · simp [hl, hp, Lock.free, Lock.readers, Phase.reads]
  | @read i c hc hp =>
    have hold : c.phase.reads = true := by rw [hp]; rfl
    rcases reads_read c.request now m.cache with ⟨hreads, howns⟩
    rcases hm.together_of_reads hc hold with ⟨n, hl⟩
    refine hm.put hc _ _ _ (fun j => ?_) ?_
    · simp [hl, howns, Lock.readerLeaves]
    · simp [hl, hold, hreads, Lock.readerLeaves, Lock.readers]
  | @own i c hc hp =>
    have hold : c.phase.reads = false := by rw [hp]; rfl
    have hl := hm.lock_eq hc (by rw [hp]; rfl)
    have hreads := reads_own c.request c.since now m.cache
    refine hm.put hc _ _ _ (fun j => ?_) ?_
    · cases (c.request.own c.since now m.cache).1.owns <;> simp [hl, Lock.free]
    · cases (c.request.own c.since now m.cache).1.owns <;>
        simp [hl, hold, hreads, Lock.free, Lock.readers]
  | @count i c held hc hp =>
    refine hm.put hc _ _ _ (fun j => ?_) ?_
    · by_cases hj : i = j
      · subst hj
        have hnot : m.lock ≠ .alone i := hm.lock_ne hc (by rw [hp]; rfl)
        simp [hnot, Phase.owns]
      · simp [hj]
    · simp [hp, Phase.reads]
  | finish value lifetime hc hr hp hf =>
    have hl := hm.lock_eq hc (by rw [hp]; rfl)
    refine hm.put hc _ _ _ (fun j => ?_) ?_
    · simp [hl, Lock.free, Phase.owns]
    · simp [hl, hp, Lock.free, Lock.readers, Phase.reads]
  | lose value lifetime hc hr hp hf => exact hm.leave hc
  | @leave i c hc hw => exact hm.leave hc

/-- Along every run the lock agrees with the phases. -/
theorem run {m m' : Meeting ν} {history : List (Nat × Step ν)} (hm : LockAgrees m)
    (h : m.run? history = some m') : LockAgrees m' :=
  run?_invariant (fun hm hs => hm.step hs) h hm

end LockAgrees

end Meeting

end SapMonitor.Cache
