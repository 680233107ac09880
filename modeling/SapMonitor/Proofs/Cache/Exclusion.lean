import SapMonitor.Proofs.Cache.Tally

/-!
# One at a time

However the steps of the callers of a cache are interleaved, at most one of them
populates at a time, and the entries are nobody else's business meanwhile.  A key
is populated only if nothing is live there, a fetch gets what was live at its check
or its own population, and a caller that is dropped leaves the cache as it is.

Main results:

- `Meeting.ignores_of_populating`: while a caller populates, no other step reads or
  writes an entry.
- `Meeting.singleFlight_of_orderly`: what a meeting promises for the steps that can
  come next.
-/

namespace SapMonitor.Cache

open Time (Span)

variable {ν : Type}

/-- The cache with the entries of another one. -/
def ExpiringCache.withEntriesOf (c d : ExpiringCache ν) : ExpiringCache ν :=
  { c with entries := d.entries, distinct := d.distinct }

namespace Meeting

/-! ## Steps that keep off the entries -/

/-- The meeting with the entries of another cache. -/
def withEntriesOf (m : Meeting ν) (d : ExpiringCache ν) : Meeting ν :=
  { m with cache := m.cache.withEntriesOf d }

/-- A step neither reads nor writes an entry: it is possible whatever the entries
are, goes the same way, and leaves them as they are. -/
def Ignores (m : Meeting ν) (now : Nat) (s : Step ν) : Prop :=
  ∀ d : ExpiringCache ν,
    (m.withEntriesOf d).step? now s = (m.step? now s).map fun m' => m'.withEntriesOf d

/-- Only fetches populate. -/
theorem populates_own {r : Request} {since now : Nat} {c : ExpiringCache ν}
    (h : (r.own since now c).1.populates = true) :
    ∃ key, r = .fetch key ∧ c.live? key now = none := by
  cases r with
  | fetch key =>
    cases hl : c.live? key now with
    | none => exact ⟨key, rfl, hl⟩
    | some v =>
      rw [Request.own_fetch_of_live hl] at h
      cases h
  | _ => cases h

theorem isPopulating_iff {m : Meeting ν} {i : Nat} :
    m.isPopulating i = true ↔ ∃ c, m.callers[i]? = some c ∧ c.phase.populates = true := by
  rw [isPopulating, Option.any_eq_true]

theorem owns_of_populates {p : Phase ν} (h : p.populates = true) : p.owns = true := by
  cases p with
  | populating stale => rfl
  | _ => cases h

/-- While a caller populates, a step of another caller keeps off the entries, and
its own step does so unless it completes the population. -/
theorem ignores_of_populating {m : Meeting ν} (hm : LockAgrees m) {i : Nat}
    (hi : m.isPopulating i = true) (now : Nat) {s : Step ν} (hs : ∀ v d, s ≠ .finish i v d) :
    m.Ignores now s := by
  rcases isPopulating_iff.1 hi with ⟨c, hc, hp⟩
  have hlock : m.lock = .alone i := hm.lock_eq hc (owns_of_populates hp)
  intro d
  cases s with
  | come r => rfl
  | grant j =>
    rw [step?, step?, grant?_of_alone hlock]
    exact grant?_of_alone (m := m.withEntriesOf d) hlock j
  | proceed j =>
    -- nobody reads, and the only owner waits for its population
    simp only [step?, proceed?, withEntriesOf]
    cases hx : m.callers[j]? with
    | none => rfl
    | some x =>
      cases hpx : x.phase with
      | reading =>
        have hnot := hm.reads_of_alone hlock hx
        rw [hpx] at hnot
        cases hnot
      | owning =>
        obtain rfl : j = i :=
          hm.eq_of_owns hx hc (by rw [hpx]; rfl) (owns_of_populates hp)
        obtain rfl : x = c := Option.some.inj (hx.symm.trans hc)
        rw [hpx] at hp
        cases hp
      | counting held =>
        simp only [hpx, Option.map_some]
        cases held <;> rfl
      | _ => simp only [hpx, Option.map_none]
  | finish j v lifetime =>
    simp only [step?, finish?, withEntriesOf]
    cases hx : m.callers[j]? with
    | none => rfl
    | some x =>
      have hnot : x.phase.populates = false := by
        rw [Bool.eq_false_iff]
        intro hpx
        obtain rfl : j = i :=
          hm.eq_of_owns hx hc (owns_of_populates hpx) (owns_of_populates hp)
        exact hs v lifetime rfl
      cases hr : x.request with
      | fetch key =>
        cases hpx : x.phase with
        | populating stale =>
          rw [hpx] at hnot
          cases hnot
        | _ => simp only [hr, hpx, Option.map_none]
      | _ => simp only [hr, Option.map_none]
  | leave j =>
    simp only [step?, leave?, withEntriesOf]
    cases hx : m.callers[j]? with
    | none => rfl
    | some x => cases hw : x.phase.waits <;> simp only [hw] <;> rfl

/-! ## Single flight at one meeting -/

/-- What a meeting promises for the steps that can come next. -/
structure SingleFlight (m : Meeting ν) : Prop where
  /-- Two callers that populate are one. -/
  alone : ∀ i j, m.isPopulating i = true → m.isPopulating j = true → i = j
  /-- While a caller populates, no step reads or writes an entry except the one that
  completes the population. -/
  undisturbed : ∀ i now s, m.isPopulating i = true → (∀ v d, s ≠ .finish i v d) → m.Ignores now s
  /-- A caller begins to populate its key only when nothing is live there. -/
  begins : ∀ i now s m', m.step? now s = some m' → m.isPopulating i = false →
    m'.isPopulating i = true →
    ∃ key, s = .proceed i ∧ m.request? i = some (.fetch key) ∧ m.cache.live? key now = none
  /-- A fetch gets what is live at its check, or what it has populated itself. -/
  answers : ∀ i key now s m' a, m.step? now s = some m' → m.request? i = some (.fetch key) →
    m.answer? i = none → m'.answer? i = some a →
    (∃ v, s = .proceed i ∧ m.cache.live? key now = some v ∧ a = .found v) ∨
    (∃ v d, s = .finish i v d ∧ m.isPopulating i = true ∧ a = .populated v)
  /-- A caller can be dropped while it populates: the cache stays as it is, and the
  lock is free. -/
  drops : ∀ i now, m.isPopulating i = true →
    ∃ m', m.step? now (.leave i) = some m' ∧ m'.cache = m.cache ∧ m'.lock = .free

/-- Only a caller whose phase changes begins to populate. -/
theorem isPopulating_put {m : Meeting ν} {i j : Nat} {c c' : Caller ν}
    (hc : m.callers[i]? = some c) {cache : ExpiringCache ν} {l : Lock}
    (hj : m.isPopulating j = false)
    (hj' : ({ m with cache := cache, lock := l }.put i c').isPopulating j = true) :
    i = j ∧ c'.phase.populates = true := by
  rw [isPopulating, getElem?_put (m := { m with cache := cache, lock := l }) hc] at hj'
  by_cases hij : i = j
  · rw [if_pos hij] at hj'
    exact ⟨hij, hj'⟩
  · rw [if_neg hij] at hj'
    cases hj.symm.trans hj'

/-- Only a caller whose phase changes gets an answer. -/
theorem answer?_put {m : Meeting ν} {i j : Nat} {c c' : Caller ν} {a : Answer ν}
    (hc : m.callers[i]? = some c) {cache : ExpiringCache ν} {l : Lock}
    (hj : m.answer? j = none)
    (hj' : ({ m with cache := cache, lock := l }.put i c').answer? j = some a) :
    i = j ∧ c'.phase.answer? = some a := by
  rw [answer?, getElem?_put (m := { m with cache := cache, lock := l }) hc] at hj'
  by_cases hij : i = j
  · rw [if_pos hij] at hj'
    exact ⟨hij, hj'⟩
  · rw [if_neg hij] at hj'
    cases hj.symm.trans hj'

/-- A caller that has just come is one more. -/
theorem getElem?_come (m : Meeting ν) (r : Request) (now j : Nat) :
    (m.callers ++ [⟨r, now, r.start⟩])[j]? = m.callers[j]? ∨
      (m.callers ++ [⟨r, now, r.start⟩])[j]? = some ⟨r, now, r.start⟩ := by
  rw [List.getElem?_append]
  by_cases hj : j < m.callers.length
  · exact .inl (if_pos hj)
  · rw [if_neg hj, List.getElem?_eq_none (Nat.le_of_not_lt hj)]
    cases j - m.callers.length with
    | zero => exact .inr rfl
    | succ k => exact .inl rfl

/-- A caller that has just come does not populate. -/
theorem isPopulating_of_come {m : Meeting ν} {r : Request} {now i : Nat}
    (hi : ({ m with callers := m.callers ++ [⟨r, now, r.start⟩] } : Meeting ν).isPopulating i =
      true) : m.isPopulating i = true := by
  rw [isPopulating] at hi ⊢
  rcases getElem?_come m r now i with hj | hj
  · rwa [hj] at hi
  · rw [hj] at hi
    cases r <;> cases hi

/-- A caller that has just come has no answer. -/
theorem answer?_of_come {m : Meeting ν} {r : Request} {now i : Nat} {a : Answer ν}
    (hi : ({ m with callers := m.callers ++ [⟨r, now, r.start⟩] } : Meeting ν).answer? i = some a) :
    m.answer? i = some a := by
  rw [answer?] at hi ⊢
  rcases getElem?_come m r now i with hj | hj
  · rwa [hj] at hi
  · rw [hj] at hi
    cases r <;> cases hi

/-- The first check of a fetch answers with what is live. -/
theorem found_of_read {key : String} {now : Nat} {c : ExpiringCache ν} {a : Answer ν}
    (ha : ((Request.fetch key).read now c).1.answer? = some a) :
    ∃ v, c.live? key now = some v ∧ a = .found v := by
  cases hl : c.live? key now with
  | none =>
    rw [Request.read_fetch_of_dead hl] at ha
    cases ha
  | some v =>
    rw [Request.read_fetch_of_live hl] at ha
    exact ⟨v, rfl, (Option.some.inj ha).symm⟩

/-- So does the second. -/
theorem found_of_own {key : String} {since now : Nat} {c : ExpiringCache ν} {a : Answer ν}
    (ha : ((Request.fetch key).own since now c).1.answer? = some a) :
    ∃ v, c.live? key now = some v ∧ a = .found v := by
  cases hl : c.live? key now with
  | none =>
    rw [Request.own_fetch_of_dead hl] at ha
    cases ha
  | some v =>
    rw [Request.own_fetch_of_live hl] at ha
    exact ⟨v, rfl, (Option.some.inj ha).symm⟩

/-- A step with which a caller begins to populate is its own, and a claim of a key
without a live entry. -/
theorem begins_of_moves {m m' : Meeting ν} {now i : Nat} {s : Step ν} (h : Moves m now s m')
    (hi : m.isPopulating i = false) (hi' : m'.isPopulating i = true) :
    ∃ key, s = .proceed i ∧ m.request? i = some (.fetch key) ∧ m.cache.live? key now = none := by
  cases h with
  | come r => cases hi.symm.trans (isPopulating_of_come hi')
  | @read j c hc hp =>
    rcases isPopulating_put hc hi hi' with ⟨rfl, hpop⟩
    have howns := (LockAgrees.reads_read c.request now m.cache).2
    rw [owns_of_populates hpop] at howns
    cases howns
  | @own j c hc hp =>
    rcases isPopulating_put hc hi hi' with ⟨rfl, hpop⟩
    rcases populates_own hpop with ⟨key, hr, hl⟩
    exact ⟨key, rfl, by rw [request?, hc, Option.map_some, hr], hl⟩
  | share hc hp hl => cases (isPopulating_put hc hi hi').2
  | take hc hp hl => cases (isPopulating_put hc hi hi').2
  | count hc hp => cases (isPopulating_put hc hi hi').2
  | finish v d hc hr hp hf => cases (isPopulating_put hc hi hi').2
  | lose v d hc hr hp hf => cases (isPopulating_put hc hi hi').2
  | leave hc hw => cases (isPopulating_put hc hi hi').2

/-- A step with which a fetch is answered is its own: a check that finds something
live, or the end of its population. -/
theorem answers_of_moves {m m' : Meeting ν} {t now i : Nat} {s : Step ν} {key : String}
    {a : Answer ν} (hm : Orderly m t) (h : Moves m now s m')
    (hr : m.request? i = some (.fetch key)) (hi : m.answer? i = none)
    (hi' : m'.answer? i = some a) :
    (∃ v, s = .proceed i ∧ m.cache.live? key now = some v ∧ a = .found v) ∨
    (∃ v d, s = .finish i v d ∧ m.isPopulating i = true ∧ a = .populated v) := by
  have hrequest {c : Caller ν} (hc : m.callers[i]? = some c) : c.request = .fetch key := by
    rw [request?, hc] at hr
    exact Option.some.inj hr
  cases h with
  | come r => cases hi.symm.trans (answer?_of_come hi')
  | @read j c hc hp =>
    rcases answer?_put hc hi hi' with ⟨rfl, ha⟩
    rw [hrequest hc] at ha
    obtain ⟨v, hlive, rfl⟩ := found_of_read ha
    exact .inl ⟨v, rfl, hlive, rfl⟩
  | @own j c hc hp =>
    rcases answer?_put hc hi hi' with ⟨rfl, ha⟩
    rw [hrequest hc] at ha
    obtain ⟨v, hlive, rfl⟩ := found_of_own ha
    exact .inl ⟨v, rfl, hlive, rfl⟩
  | @count j c held hc hp =>
    rcases answer?_put hc hi hi' with ⟨rfl, ha⟩
    rcases (hm.regular c (List.mem_of_getElem? hc)).counting held hp with ⟨k, hk⟩
    rw [hrequest hc] at hk
    cases hk
  | finish v d hc hq hp hf =>
    rcases answer?_put hc hi hi' with ⟨rfl, ha⟩
    cases ha
    exact .inr ⟨v, d, rfl, isPopulating_iff.2 ⟨_, hc, by rw [hp]; rfl⟩, rfl⟩
  | share hc hp hl => cases (answer?_put hc hi hi').2
  | take hc hp hl => cases (answer?_put hc hi hi').2
  | lose v d hc hq hp hf => cases (answer?_put hc hi hi').2
  | leave hc hw => cases (answer?_put hc hi hi').2

/-- Dropping a caller that populates frees the lock and nothing else. -/
theorem leave?_of_populating {m : Meeting ν} {i : Nat} (hi : m.isPopulating i = true) :
    ∃ m', m.leave? i = some m' ∧ m'.cache = m.cache ∧ m'.lock = .free := by
  rcases isPopulating_iff.1 hi with ⟨c, hc, hp⟩
  cases hphase : c.phase with
  | populating stale =>
    refine ⟨{ m with lock := .free }.put i { c with phase := .gone }, ?_, rfl, rfl⟩
    simp only [leave?, hc, hphase]
    rfl
  | _ =>
    rw [hphase] at hp
    cases hp

/-- Orderly meetings are single flight. -/
theorem singleFlight_of_orderly {m : Meeting ν} {t : Nat} (hm : Orderly m t) : SingleFlight m where
  alone i j hi hj := by
    rcases isPopulating_iff.1 hi with ⟨c, hc, hpc⟩
    rcases isPopulating_iff.1 hj with ⟨d, hd, hpd⟩
    exact hm.lock.eq_of_owns hc hd (owns_of_populates hpc) (owns_of_populates hpd)
  undisturbed _ now _ hi hs := ignores_of_populating hm.lock hi now hs
  begins _ _ _ _ h hi hi' := begins_of_moves (moves_of_step? h) hi hi'
  answers _ _ _ _ _ _ h hr hi hi' := answers_of_moves hm (moves_of_step? h) hr hi hi'
  drops _ _ hi := leave?_of_populating hi

end Meeting

end SapMonitor.Cache
