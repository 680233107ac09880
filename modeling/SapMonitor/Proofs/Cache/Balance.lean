import SapMonitor.Proofs.Cache.Books
import SapMonitor.Proofs.Cache.Verdicts

/-!
# The counters balance

Between operations the six counters of a cache balance: what was asked for was found or
populated, what was populated is held or was deleted, and every update replaced an entry
that had been counted as expired.  The last of these is an inequality once callers are
dropped while they populate, and the difference is the number of dead entries they had
claimed.  A population that would live beyond the end of the clock is no miss, and its caller
is lost like one that is dropped.  Removals and sweeps tell what they have done.

Main results:

- `Meeting.balanced_of_atRest`: the balance of every meeting that is at rest.
- `Meeting.truthful_of_run`: what single operations do to the counters, and what they say.
- `Meeting.statistics_balance`: both together.
- `Meeting.unbalanced_of_endless`: a population that is complete but not stored.
-/

namespace SapMonitor.Cache

open Time (Span)

variable {ν : Type}

namespace Meeting

/-! ## Rest -/

/-- Nobody is about to do anything. -/
def AtRest (m : Meeting ν) : Prop :=
  ∀ c ∈ m.callers, c.phase.isOver = true

/-- At rest there are no debts. -/
theorem AtRest.debts {m : Meeting ν} (h : m.AtRest) :
    m.callers.countP Caller.owesDelete = 0 ∧ m.callers.countP Caller.owesUpdate = 0 := by
  constructor
  · rw [List.countP_eq_zero]
    intro c hc howes
    have hover := h c hc
    rw [Caller.owesDelete] at howes
    cases hp : c.phase with
    | counting held => rw [hp] at hover; cases hover
    | _ => rw [hp] at howes; cases howes
  · rw [List.countP_eq_zero]
    intro c hc howes
    have hover := h c hc
    rw [Caller.owesUpdate] at howes
    cases hp : c.phase with
    | populating stale => rw [hp] at hover; cases hover
    | _ => rw [hp] at howes; cases howes

/-! ## The balance -/

/-- The balance of a meeting at rest to which a run has led. -/
structure Balanced (m : Meeting ν) (history : List (Nat × Step ν)) (e : Meeting ν) : Prop where
  /-- Every fetch that has an answer was a hit or a miss. -/
  fetched : e.cache.counters.hits + e.cache.counters.misses =
    e.callers.countP Caller.isFetched
  /-- Every miss has completed a population whose end the clock can tell. -/
  populated : e.cache.counters.misses = history.countP fun x => x.2.stores x.1
  /-- Every population has set a new entry or replaced one. -/
  stored : e.cache.counters.misses = e.cache.counters.sets + e.cache.counters.updates
  /-- What was set and not deleted is still there. -/
  held : e.cache.size + e.cache.counters.deletes = e.cache.counters.sets
  /-- What was replaced had been counted as expired. -/
  replaced_le : e.cache.counters.updates ≤ e.cache.counters.expired
  /-- What was counted as expired was replaced, if no caller was dropped while it populated
  and every population was stored. -/
  replaced_eq : losses m history = [] → e.cache.counters.updates = e.cache.counters.expired

/-- What the callers of a run do to the cache one by one, and what they say of it.  The
counters themselves are read without a step. -/
structure Truthful (m : Meeting ν) (history : List (Nat × Step ν)) (e : Meeting ν) : Prop where
  /-- Whoever only reads changes no counter, nor anything else. -/
  reads : ∀ i r now s e', e.request? i = some r → r.onlyReads = true → s.caller? = some i →
    e.step? now s = some e' → e'.cache = e.cache
  /-- A removal is answered by whether the key had an entry, dead or not, when it was
  removed. -/
  removed : ∀ i key a, e.request? i = some (.remove key) → e.answer? i = some a →
    ∃ before now after m₁ m₂, history = before ++ (now, .proceed i) :: after ∧
      m.run? before = some m₁ ∧ m₁.step? now (.proceed i) = some m₂ ∧
      a = .removed (m₁.cache.find? key).isSome ∧ m₂.cache.find? key = none
  /-- A sweep is answered by how many entries it has removed, whoever else is there. -/
  swept : ∀ i a, e.request? i = some .purge → e.answer? i = some a →
    ∃ n before now after m₁ m₂, a = .swept n ∧ history = before ++ (now, .proceed i) :: after ∧
      m.run? before = some m₁ ∧ m₁.step? now (.proceed i) = some m₂ ∧
      m₂.cache.size + n = m₁.cache.size
  /-- If nobody else does anything between its coming and its answer, that is by how much
  the number of entries falls. -/
  alone : ∀ before t rest m₁ a, history = before ++ (t, .come .purge) :: rest →
    m.run? before = some m₁ → (∀ x ∈ rest, x.2.caller? = some m₁.callers.length) →
    e.answer? m₁.callers.length = some a →
    ∃ n, a = .swept n ∧ e.cache.size + n = m₁.cache.size

/-- In every run from an empty cache the phases suit the requests. -/
theorem suited_of_run {name : String} {history : List (Nat × Step ν)} {e : Meeting ν}
    (h : ({ cache := .empty name } : Meeting ν).run? history = some e) : Suited e :=
  run?_invariant (fun hm hs => hm.step hs) h (fun c hc => by cases hc)

/-- At rest there are no debts, and the books are the balance. -/
theorem balanced_of_atRest {name : String} {history : List (Nat × Step ν)} {e : Meeting ν}
    (h : ({ cache := .empty name } : Meeting ν).run? history = some e) (hrest : e.AtRest) :
    Balanced { cache := .empty name } history e := by
  have htally := (Tally.start (.empty name)).run h
  have hbooks := (Books.start name).run (.start _) h
  obtain ⟨hdelete, hupdate⟩ := hrest.debts
  have hreplaced := hbooks.replaced
  rw [hupdate, Nat.add_zero, Nat.zero_add] at hreplaced
  constructor
  · rw [countP_isFetched (suited_of_run h), htally.hits, htally.misses]
    change 0 + _ + (0 + _) = _
    omega
  · rw [misses_of_run? h]
    exact Nat.zero_add _
  · exact hbooks.stored
  · have hheld := hbooks.held
    rwa [hdelete, Nat.add_zero] at hheld
  · omega
  · intro hnone
    rw [hnone] at hreplaced
    exact hreplaced.symm

/-- Every run from an empty cache is truthful. -/
theorem truthful_of_run {name : String} {history : List (Nat × Step ν)} {e : Meeting ν}
    (h : ({ cache := .empty name } : Meeting ν).run? history = some e) :
    Truthful { cache := .empty name } history e where
  reads i r now s e' hr honly hs hstep :=
    cache_of_reading (suited_of_run h) (moves_of_step? hstep) hs hr honly
  removed i key a hr ha := by
    obtain ⟨held, rfl⟩ := Phase.eq_removed_of_suits ((suited_of_run h).answer hr ha)
    obtain ⟨before, now, s, after, m₁, m₂, hsplit, hbefore, hstep, hafter, h₁, h₂⟩ :=
      exists_turning (P := fun m => m.verdict? i = some (.removed held)) h nofun
        (verdict?_of_answer? ha)
    obtain ⟨k, rfl, hrequest, hheld, hgone⟩ := removed_of_verdict (moves_of_step? hstep) h₁ h₂
    have hlast := request?_of_run? (run?_cons_of hstep hafter) hrequest
    obtain rfl : key = k := Request.remove.inj (Option.some.inj (hr.symm.trans hlast))
    exact ⟨before, now, after, m₁, m₂, hsplit, hbefore, hstep, congrArg _ hheld, hgone⟩
  swept i a hr ha := by
    obtain ⟨n, rfl⟩ := Phase.eq_swept_of_suits ((suited_of_run h).answer hr ha)
    obtain ⟨before, now, s, after, m₁, m₂, hsplit, hbefore, hstep, -, h₁, h₂⟩ :=
      exists_turning (P := fun m => m.verdict? i = some (.swept n)) h nofun
        (verdict?_of_answer? ha)
    obtain ⟨rfl, hsize⟩ := swept_of_verdict (moves_of_step? hstep) h₁ h₂
    exact ⟨n, before, now, after, m₁, m₂, rfl, hsplit, hbefore, hstep, hsize⟩
  alone before t rest m₁ a hsplit hbefore hrest ha := by
    rw [hsplit, run?_append, hbefore, Option.bind_some] at h
    obtain ⟨m₂, hcome, hrun⟩ := run?_cons h
    cases hcome
    have hnew : (m₁.callers ++ [⟨.purge, t, .queued⟩])[m₁.callers.length]? =
        some ⟨.purge, t, .queued⟩ := by simp
    obtain ⟨n, hn, hsize⟩ := swept_of_alone hrun hrest hnew rfl ha
    exact ⟨n, hn, hsize⟩

/-- Whatever the callers of a new cache do, the counters balance when all of them are at
rest, and removals and sweeps tell what they have done. -/
theorem statistics_balance {name : String} {history : List (Nat × Step ν)} {e : Meeting ν}
    (h : ({ cache := .empty name } : Meeting ν).run? history = some e) :
    (e.AtRest → Balanced { cache := .empty name } history e) ∧
      Truthful { cache := .empty name } history e :=
  ⟨balanced_of_atRest h, truthful_of_run h⟩

/-- A key is populated and dies.  A first caller claims the dead entry and is dropped, a
second one replaces it, a third one finds that; then the key is swept out, and a removal
comes too late. -/
def troubled : List (Nat × Step Nat) :=
  [(0, .come (.fetch "a")), (0, .grant 0), (0, .proceed 0), (0, .grant 0), (0, .proceed 0),
    (1, .finish 0 7 ⟨5⟩),
    (8, .come (.fetch "a")), (8, .grant 1), (8, .proceed 1), (8, .grant 1), (8, .proceed 1),
    (9, .leave 1),
    (9, .come (.fetch "a")), (9, .grant 2), (9, .proceed 2), (9, .grant 2), (9, .proceed 2),
    (10, .finish 2 8 ⟨5⟩),
    (11, .come (.fetch "a")), (11, .grant 3), (11, .proceed 3),
    (20, .come .purge), (20, .grant 4), (20, .proceed 4),
    (21, .come (.remove "a")), (21, .grant 5), (21, .proceed 5), (22, .proceed 5)]

/-- What that comes to. -/
def troubledEnd : Meeting Nat where
  cache :=
    { name := "cache"
      counters := { hits := 1, misses := 2, sets := 1, updates := 1, deletes := 1, expired := 2 } }
  callers :=
    [⟨.fetch "a", 0, .done (.populated 7)⟩, ⟨.fetch "a", 8, .gone⟩,
      ⟨.fetch "a", 9, .done (.populated 8)⟩, ⟨.fetch "a", 11, .done (.found 8)⟩,
      ⟨.purge, 20, .done (.swept 1)⟩, ⟨.remove "a", 21, .done (.removed false)⟩]

theorem statistics_balance_troubled :
    ({ cache := .empty "cache" } : Meeting Nat).run? troubled = some troubledEnd ∧
      troubledEnd.AtRest ∧ losses { cache := .empty "cache" } troubled = [true] ∧
      Balanced { cache := .empty "cache" } troubled troubledEnd ∧
      Truthful { cache := .empty "cache" } troubled troubledEnd := by
  have hrun : ({ cache := .empty "cache" } : Meeting Nat).run? troubled = some troubledEnd := rfl
  have hrest : troubledEnd.AtRest := by
    intro c hc
    simp only [troubledEnd, List.mem_cons, List.not_mem_nil, or_false] at hc
    rcases hc with rfl | rfl | rfl | rfl | rfl | rfl <;> rfl
  obtain ⟨hbalanced, htruthful⟩ := statistics_balance hrun
  exact ⟨hrun, hrest, rfl, hbalanced hrest, htruthful⟩

/-- A key is populated and dies.  The next caller populates it with what would live beyond
the end of the clock. -/
def endless : List (Nat × Step Nat) :=
  [(0, .come (.fetch "a")), (0, .grant 0), (0, .proceed 0), (0, .grant 0), (0, .proceed 0),
    (1, .finish 0 7 ⟨5⟩),
    (8, .come (.fetch "a")), (8, .grant 1), (8, .proceed 1), (8, .grant 1), (8, .proceed 1),
    (9, .finish 1 8 ⟨Span.clockEnd⟩)]

/-- What that comes to. -/
def endlessEnd : Meeting Nat where
  cache :=
    { name := "cache"
      entries := [("a", ⟨7, some 6⟩)]
      counters := { misses := 1, sets := 1, expired := 1 } }
  callers := [⟨.fetch "a", 0, .done (.populated 7)⟩, ⟨.fetch "a", 8, .gone⟩]

/-- Nobody is dropped, yet there are fewer misses than completed populations, and fewer
updates than claimed dead entries. -/
theorem unbalanced_of_endless :
    ({ cache := .empty "cache" } : Meeting Nat).run? endless = some endlessEnd ∧
      endlessEnd.AtRest ∧ (∀ x ∈ endless, ∀ i, x.2 ≠ .leave i) ∧
      endlessEnd.cache.counters.misses ≠ endless.countP (fun x => x.2.isFinish) ∧
      endlessEnd.cache.counters.updates ≠ endlessEnd.cache.counters.expired := by
  refine ⟨rfl, ?_, ?_, by decide, by decide⟩
  · intro c hc
    simp only [endlessEnd, List.mem_cons, List.not_mem_nil, or_false] at hc
    rcases hc with rfl | rfl <;> rfl
  · intro x hx i hleave
    simp only [endless, List.mem_cons, List.not_mem_nil, or_false] at hx
    rcases hx with rfl | rfl | rfl | rfl | rfl | rfl | rfl | rfl | rfl | rfl | rfl | rfl <;>
      cases hleave

end Meeting

end SapMonitor.Cache
