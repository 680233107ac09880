import SapMonitor.Proofs.Cache.Exclusion

/-!
# What callers find out

What a caller says when its call is over it has found out in one of its steps: in a read, in
what it did while it owned the cache, or in a population.  That step is found in the run, and
what it does to the cache is what the caller says of it.

Main results:

- `Meeting.Suited.step`: callers stay in phases that their requests can come to.
- `Meeting.exists_turning`: what comes to hold in a run comes to hold in a step.
- `Meeting.removed_of_verdict` and `Meeting.swept_of_verdict`: the steps in which removals
  and sweeps find out what they tell.
- `Meeting.swept_of_alone`: a sweep that nobody comes between tells by how much the number of
  entries falls.
-/

namespace SapMonitor.Cache

variable {ν : Type}

/-! ## Phases and requests -/

namespace Phase

/-- What the caller has found out: its answer, or the removal that it is about to count. -/
def verdict? : Phase ν → Option (Answer ν)
  | counting held => some (.removed held)
  | done a => some a
  | _ => none

/-- Whether a phase is one that a request can come to. -/
def suits : Phase ν → Request → Bool
  | populating _, .fetch _ => true
  | populating _, _ => false
  | counting _, .remove _ => true
  | counting _, _ => false
  | done (.found _), .fetch _ => true
  | done (.populated _), .fetch _ => true
  | done (.live _), .get _ => true
  | done (.removed _), .remove _ => true
  | done (.swept _), .purge => true
  | done (.size _), .size => true
  | done _, _ => false
  | _, _ => true

/-- Only who wants a key removed finds out whether it was held. -/
theorem eq_remove_of_verdict {p : Phase ν} {r : Request} {held : Bool} (h : p.suits r = true)
    (hv : p.verdict? = some (.removed held)) : ∃ key, r = .remove key := by
  cases p with
  | counting b =>
    cases r with
    | remove key => exact ⟨key, rfl⟩
    | _ => cases h
  | done a =>
    cases hv
    cases r with
    | remove key => exact ⟨key, rfl⟩
    | _ => cases h
  | _ => cases hv

/-- Only who sweeps finds out how much a sweep did. -/
theorem eq_purge_of_verdict {p : Phase ν} {r : Request} {n : Nat} (h : p.suits r = true)
    (hv : p.verdict? = some (.swept n)) : r = .purge := by
  cases p with
  | done a =>
    cases hv
    cases r with
    | purge => rfl
    | _ => cases h
  | _ => cases hv

/-- A removal is answered by whether the key was held. -/
theorem eq_removed_of_suits {a : Answer ν} {key : String}
    (h : (done a).suits (.remove key) = true) : ∃ held, a = .removed held := by
  cases a with
  | removed held => exact ⟨held, rfl⟩
  | _ => cases h

/-- A sweep is answered by how much it did. -/
theorem eq_swept_of_suits {a : Answer ν} (h : (done a).suits .purge = true) :
    ∃ n, a = .swept n := by
  cases a with
  | swept n => exact ⟨n, rfl⟩
  | _ => cases h

end Phase

namespace Caller

/-- Whether the caller has fetched a key and has an answer. -/
def isFetched (c : Caller ν) : Bool :=
  match c.request, c.phase with
  | .fetch _, .done _ => true
  | _, _ => false

/-- A fetch that has an answer is a hit or a miss, and nothing else is. -/
theorem isFetched_of_suits {c : Caller ν} (h : c.phase.suits c.request = true) :
    c.isFetched.toNat = c.isHit.toNat + c.isMiss.toNat := by
  obtain ⟨r, t, p⟩ := c
  cases p with
  | done a =>
    cases r with
    | fetch key =>
      cases a with
      | found v => rfl
      | populated v => rfl
      | _ => cases h
    | _ =>
      cases a with
      | found v => cases h
      | populated v => cases h
      | _ => rfl
  | _ => cases r <;> rfl

end Caller

/-- The caller that takes a step; one that comes is no caller yet. -/
def Step.caller? : Step ν → Option Nat
  | come _ => none
  | grant i => some i
  | proceed i => some i
  | finish i _ _ => some i
  | leave i => some i

namespace Request

/-- Whether a request asks for what is there and wants no change. -/
def onlyReads : Request → Bool
  | get _ => true
  | size => true
  | _ => false

/-- A read leads to a phase that suits the request. -/
theorem suits_read (r : Request) (now : Nat) (c : ExpiringCache ν) :
    (r.read now c).1.suits r = true := by
  cases r with
  | fetch key =>
    cases hl : c.live? key now with
    | none => rw [read_fetch_of_dead hl]; rfl
    | some v => rw [read_fetch_of_live hl]; rfl
  | _ => rfl

/-- So does what an owner does. -/
theorem suits_own (r : Request) (since now : Nat) (c : ExpiringCache ν) :
    (r.own since now c).1.suits r = true := by
  cases r with
  | fetch key =>
    cases hl : c.live? key now with
    | none => rw [own_fetch_of_dead hl]; rfl
    | some v => rw [own_fetch_of_live hl]; rfl
  | _ => rfl

end Request

namespace Meeting

/-! ## Suitable phases -/

/-- Every caller is in a phase that its request can come to. -/
def Suited (m : Meeting ν) : Prop :=
  ∀ c ∈ m.callers, c.phase.suits c.request = true

namespace Suited

variable {m m' : Meeting ν}

theorem put (hm : Suited m) {i : Nat} {c : Caller ν} (cache : ExpiringCache ν) (l : Lock)
    {p : Phase ν} (hp : p.suits c.request = true) :
    Suited ({ m with cache := cache, lock := l }.put i { c with phase := p }) := by
  intro d hd
  rcases List.mem_or_eq_of_mem_set hd with hd | rfl
  · exact hm d hd
  · exact hp

theorem step {now : Nat} {s : Step ν} (hm : Suited m) (h : Moves m now s m') : Suited m' := by
  cases h with
  | come r =>
    intro d hd
    rcases List.mem_append.1 hd with hd | hd
    · exact hm d hd
    · rw [List.mem_singleton] at hd
      subst hd
      cases r <;> rfl
  | share hc hp hl => exact hm.put _ _ rfl
  | take hc hp hl => exact hm.put _ _ rfl
  | @read i c hc hp => exact hm.put _ _ (c.request.suits_read now m.cache)
  | @own i c hc hp => exact hm.put _ _ (c.request.suits_own c.since now m.cache)
  | @count i c held hc hp =>
    have hold := hm c (List.mem_of_getElem? hc)
    rw [hp] at hold
    refine hm.put _ _ ?_
    cases hr : c.request with
    | remove key => rfl
    | _ =>
      rw [hr] at hold
      cases hold
  | finish value lifetime hc hr hp hf =>
    refine hm.put _ _ ?_
    rw [hr]
    rfl
  | lose value lifetime hc hr hp hf => exact hm.put _ _ rfl
  | leave hc hw => exact hm.put _ _ rfl

/-- An answer suits the request. -/
theorem answer (hm : Suited m) {i : Nat} {r : Request} {a : Answer ν}
    (hr : m.request? i = some r) (ha : m.answer? i = some a) :
    (Phase.done a).suits r = true := by
  obtain ⟨c, hc, hphase⟩ := Option.bind_eq_some_iff.1 ha
  have hsuits := hm c (List.mem_of_getElem? hc)
  rw [request?, hc] at hr
  rw [Option.some.inj hr] at hsuits
  cases hp : c.phase with
  | done b =>
    rw [hp] at hphase hsuits
    obtain rfl : b = a := Option.some.inj hphase
    exact hsuits
  | _ =>
    rw [hp] at hphase
    cases hphase

end Suited

/-- Where every phase suits its request, the fetches that have an answer are the hits and
the misses. -/
theorem countP_isFetched {callers : List (Caller ν)}
    (h : ∀ c ∈ callers, c.phase.suits c.request = true) :
    callers.countP Caller.isFetched =
      callers.countP Caller.isHit + callers.countP Caller.isMiss := by
  induction callers with
  | nil => rfl
  | cons c cs ih =>
    have hhead := Caller.isFetched_of_suits (h c List.mem_cons_self)
    have htail := ih fun d hd => h d (List.mem_cons_of_mem _ hd)
    have hpaid (b : Bool) : (if b = true then 1 else 0) = b.toNat := by cases b <;> rfl
    simp only [List.countP_cons, hpaid]
    omega

/-! ## The step that does it -/

/-- What comes to hold in a run comes to hold in one of its steps. -/
theorem exists_turning {P : Meeting ν → Prop} {m e : Meeting ν} {history : List (Nat × Step ν)}
    (h : m.run? history = some e) (hm : ¬P m) (he : P e) :
    ∃ before now s after m₁ m₂, history = before ++ (now, s) :: after ∧
      m.run? before = some m₁ ∧ m₁.step? now s = some m₂ ∧ m₂.run? after = some e ∧
      ¬P m₁ ∧ P m₂ := by
  induction history generalizing m with
  | nil =>
    cases h
    exact absurd he hm
  | cons x rest ih =>
    obtain ⟨now, s⟩ := x
    obtain ⟨m', hs, hrest⟩ := run?_cons h
    by_cases hm' : P m'
    · exact ⟨[], now, s, rest, m, m', rfl, rfl, hs, hrest, hm, hm'⟩
    · obtain ⟨before, later, t, after, m₁, m₂, hsplit, hbefore, hstep, hafter, h₁, h₂⟩ :=
        ih hrest hm'
      refine ⟨(now, s) :: before, later, t, after, m₁, m₂, ?_, run?_cons_of hs hbefore, hstep,
        hafter, h₁, h₂⟩
      rw [hsplit, List.cons_append]

/-- What a caller has found out, be it counted or not. -/
def verdict? (m : Meeting ν) (i : Nat) : Option (Answer ν) :=
  m.callers[i]?.bind fun c => c.phase.verdict?

/-- An answer is a verdict. -/
theorem verdict?_of_answer? {m : Meeting ν} {i : Nat} {a : Answer ν}
    (h : m.answer? i = some a) : m.verdict? i = some a := by
  obtain ⟨c, hc, ha⟩ := Option.bind_eq_some_iff.1 h
  rw [verdict?, hc, Option.bind_some]
  cases hp : c.phase with
  | done b =>
    rw [hp] at ha
    exact ha
  | _ =>
    rw [hp] at ha
    cases ha

/-- A caller's verdict changes in its own steps only. -/
theorem verdict?_put {m : Meeting ν} {i j : Nat} {c c' : Caller ν} (hc : m.callers[i]? = some c)
    (cache : ExpiringCache ν) (l : Lock) {a : Answer ν} (hj : m.verdict? j ≠ some a)
    (hj' : ({ m with cache := cache, lock := l }.put i c').verdict? j = some a) :
    i = j ∧ c'.phase.verdict? = some a := by
  rw [verdict?, getElem?_put (m := { m with cache := cache, lock := l }) hc] at hj'
  by_cases hij : i = j
  · rw [if_pos hij] at hj'
    exact ⟨hij, hj'⟩
  · rw [if_neg hij] at hj'
    exact absurd hj' hj

/-- A verdict that is new comes from a read, from what an owner does, or from a
population. -/
theorem verdict?_of_moves {m m' : Meeting ν} {now i : Nat} {s : Step ν} {a : Answer ν}
    (h : Moves m now s m') (hm : m.verdict? i ≠ some a) (hm' : m'.verdict? i = some a) :
    (∃ c, m.callers[i]? = some c ∧ (c.request.read now m.cache).1.verdict? = some a) ∨
    (∃ c, s = .proceed i ∧ m.callers[i]? = some c ∧
      (c.request.own c.since now m.cache).1.verdict? = some a ∧
      m'.cache = (c.request.own c.since now m.cache).2) ∨
    ∃ v, a = .populated v := by
  cases h with
  | come r =>
    rw [verdict?] at hm hm'
    rcases getElem?_come m r now i with hj | hj
    · rw [hj] at hm'
      exact absurd hm' hm
    · rw [hj] at hm'
      cases r <;> cases hm'
  | @read j c hc hp =>
    obtain ⟨rfl, hv⟩ := verdict?_put hc _ _ hm hm'
    exact .inl ⟨c, hc, hv⟩
  | @own j c hc hp =>
    obtain ⟨rfl, hv⟩ := verdict?_put hc _ _ hm hm'
    exact .inr (.inl ⟨c, rfl, hc, hv, rfl⟩)
  | @count j c held hc hp =>
    obtain ⟨rfl, hv⟩ := verdict?_put hc _ _ hm hm'
    refine absurd ?_ hm
    rw [verdict?, hc, Option.bind_some, hp]
    exact hv
  | finish v d hc hr hp hf =>
    obtain ⟨-, hv⟩ := verdict?_put hc _ _ hm hm'
    exact .inr (.inr ⟨v, (Option.some.inj hv).symm⟩)
  | share hc hp hl => cases (verdict?_put hc _ _ hm hm').2
  | take hc hp hl => cases (verdict?_put hc _ _ hm hm').2
  | lose v d hc hr hp hf => cases (verdict?_put hc _ _ hm hm').2
  | leave hc hw => cases (verdict?_put hc _ _ hm hm').2

/-- Whoever finds out whether a key was held has removed it in that step. -/
theorem removed_of_verdict {m m' : Meeting ν} {now i : Nat} {s : Step ν} {held : Bool}
    (h : Moves m now s m') (hm : m.verdict? i ≠ some (.removed held))
    (hm' : m'.verdict? i = some (.removed held)) :
    ∃ key, s = .proceed i ∧ m.request? i = some (.remove key) ∧
      held = (m.cache.find? key).isSome ∧ m'.cache.find? key = none := by
  rcases verdict?_of_moves h hm hm' with ⟨c, -, hv⟩ | ⟨c, hs, hc, hv, hcache⟩ | ⟨v, hv⟩
  · obtain ⟨key, hr⟩ := Phase.eq_remove_of_verdict (c.request.suits_read now m.cache) hv
    rw [hr] at hv
    cases hv
  · obtain ⟨key, hr⟩ := Phase.eq_remove_of_verdict (c.request.suits_own c.since now m.cache) hv
    rw [hr] at hv hcache
    refine ⟨key, hs, by rw [request?, hc, Option.map_some, hr], ?_, ?_⟩
    · exact (Answer.removed.inj (Option.some.inj hv)).symm
    · rw [hcache]
      exact m.cache.find?_drop_self key
  · cases hv

/-- Whoever finds out how much a sweep did has swept in that step. -/
theorem swept_of_verdict {m m' : Meeting ν} {now i n : Nat} {s : Step ν} (h : Moves m now s m')
    (hm : m.verdict? i ≠ some (.swept n)) (hm' : m'.verdict? i = some (.swept n)) :
    s = .proceed i ∧ m'.cache.size + n = m.cache.size := by
  rcases verdict?_of_moves h hm hm' with ⟨c, -, hv⟩ | ⟨c, hs, -, hv, hcache⟩ | ⟨v, hv⟩
  · have hr := Phase.eq_purge_of_verdict (c.request.suits_read now m.cache) hv
    rw [hr] at hv
    cases hv
  · have hr := Phase.eq_purge_of_verdict (c.request.suits_own c.since now m.cache) hv
    rw [hr] at hv hcache
    have hn : (m.cache.purge c.since).1 = n := Answer.swept.inj (Option.some.inj hv)
    refine ⟨hs, ?_⟩
    rw [hcache, ← hn]
    exact m.cache.size_purge c.since
  · cases hv

/-! ## One caller at work -/

/-- A caller that only reads leaves the cache as it is in each of its steps. -/
theorem cache_of_reading {m m' : Meeting ν} {now i : Nat} {s : Step ν} {r : Request}
    (hm : Suited m) (h : Moves m now s m') (hs : s.caller? = some i) (hr : m.request? i = some r)
    (honly : r.onlyReads = true) : m'.cache = m.cache := by
  have hrequest {c : Caller ν} (hc : m.callers[i]? = some c) : c.request = r := by
    rw [request?, hc] at hr
    exact Option.some.inj hr
  cases h with
  | come r => cases hs
  | @read j c hc hp =>
    cases hs
    rw [← hrequest hc] at honly
    change (c.request.read now m.cache).2 = m.cache
    cases hc' : c.request with
    | fetch key => rw [hc'] at honly; cases honly
    | _ => rfl
  | @own j c hc hp =>
    cases hs
    rw [← hrequest hc] at honly
    change (c.request.own c.since now m.cache).2 = m.cache
    cases hc' : c.request with
    | get key => rfl
    | size => rfl
    | _ => rw [hc'] at honly; cases honly
  | @count j c held hc hp =>
    cases hs
    have hsuits := hm c (List.mem_of_getElem? hc)
    rw [hp, hrequest hc] at hsuits
    cases r with
    | remove key => cases honly
    | _ => cases hsuits
  | finish v d hc hq hp hf =>
    cases hs
    rw [← hrequest hc, hq] at honly
    cases honly
  | _ => rfl

/-- Who has nothing more to do takes no step. -/
theorem not_isOver_of_moves {m m' : Meeting ν} {now i : Nat} {s : Step ν} {c : Caller ν}
    (h : Moves m now s m') (hs : s.caller? = some i) (hc : m.callers[i]? = some c) :
    c.phase.isOver = false := by
  have hsame {d : Caller ν} (hd : m.callers[i]? = some d) : d = c :=
    Option.some.inj (hd.symm.trans hc)
  cases h with
  | come r => cases hs
  | share hd hp hl => cases hs; rw [← hsame hd, hp]; rfl
  | take hd hp hl => cases hs; rw [← hsame hd, hp]; rfl
  | read hd hp => cases hs; rw [← hsame hd, hp]; rfl
  | own hd hp => cases hs; rw [← hsame hd, hp]; rfl
  | count hd hp => cases hs; rw [← hsame hd, hp]; rfl
  | finish v d hd hr hp hf => cases hs; rw [← hsame hd, hp]; rfl
  | lose v d hd hr hp hf => cases hs; rw [← hsame hd, hp]; rfl
  | leave hd hw => cases hs; rw [← hsame hd]; exact Phase.isOver_of_waits hw

/-- A run of a caller that has nothing more to do is empty. -/
theorem eq_of_isOver {m e : Meeting ν} {i : Nat} {c : Caller ν} {rest : List (Nat × Step ν)}
    (h : m.run? rest = some e) (hrest : ∀ x ∈ rest, x.2.caller? = some i)
    (hc : m.callers[i]? = some c) (hover : c.phase.isOver = true) : e = m := by
  cases rest with
  | nil => exact (Option.some.inj h).symm
  | cons x rest =>
    obtain ⟨now, s⟩ := x
    obtain ⟨m', hs, -⟩ := run?_cons h
    have hnot := not_isOver_of_moves (moves_of_step? hs) (hrest _ List.mem_cons_self) hc
    rw [hover] at hnot
    cases hnot

/-- A step of a sweep leaves the cache as it is, or is the one that sweeps. -/
theorem sweep_of_moves {m m' : Meeting ν} {now i : Nat} {s : Step ν} {t : Nat} {p : Phase ν}
    (h : Moves m now s m') (hs : s.caller? = some i)
    (hc : m.callers[i]? = some ⟨.purge, t, p⟩) (hp : p.verdict? = none) :
    ∃ p', m'.callers[i]? = some ⟨.purge, t, p'⟩ ∧
      ((p'.verdict? = none ∧ m'.cache = m.cache) ∨
        ∃ n, p' = .done (.swept n) ∧ m'.cache.size + n = m.cache.size) := by
  have hput (cache : ExpiringCache ν) (l : Lock) (q : Phase ν) :
      ({ m with cache := cache, lock := l }.put i ⟨.purge, t, q⟩).callers[i]? =
        some ⟨.purge, t, q⟩ :=
    getElem?_put_self (m := { m with cache := cache, lock := l }) hc _
  have hsame {d : Caller ν} (hd : m.callers[i]? = some d) : d = ⟨.purge, t, p⟩ :=
    Option.some.inj (hd.symm.trans hc)
  cases h with
  | come r => cases hs
  | share hd hq hl =>
    cases hs
    obtain rfl := hsame hd
    exact ⟨.reading, hput _ _ _, .inl ⟨rfl, rfl⟩⟩
  | take hd hq hl =>
    cases hs
    obtain rfl := hsame hd
    exact ⟨.owning, hput _ _ _, .inl ⟨rfl, rfl⟩⟩
  | read hd hq =>
    cases hs
    obtain rfl := hsame hd
    exact ⟨.queued, hput _ _ _, .inl ⟨rfl, rfl⟩⟩
  | own hd hq =>
    cases hs
    obtain rfl := hsame hd
    exact ⟨_, hput _ _ _, .inr ⟨_, rfl, m.cache.size_purge t⟩⟩
  | count hd hq =>
    cases hs
    obtain rfl := hsame hd
    change p = _ at hq
    rw [hq] at hp
    cases hp
  | finish v d hd hr hq hf =>
    cases hs
    obtain rfl := hsame hd
    cases hr
  | lose v d hd hr hq hf =>
    cases hs
    obtain rfl := hsame hd
    cases hr
  | leave hd hw =>
    cases hs
    obtain rfl := hsame hd
    exact ⟨.gone, hput _ _ _, .inl ⟨rfl, rfl⟩⟩

/-- A sweep that nobody else interferes with tells how many entries fewer there are. -/
theorem swept_of_alone {m e : Meeting ν} {i : Nat} {a : Answer ν} {rest : List (Nat × Step ν)}
    {t : Nat} {p : Phase ν} (h : m.run? rest = some e) (hrest : ∀ x ∈ rest, x.2.caller? = some i)
    (hc : m.callers[i]? = some ⟨.purge, t, p⟩) (hp : p.verdict? = none)
    (ha : e.answer? i = some a) : ∃ n, a = .swept n ∧ e.cache.size + n = m.cache.size := by
  induction rest generalizing m p with
  | nil =>
    cases h
    have hverdict := verdict?_of_answer? ha
    rw [verdict?, hc, Option.bind_some, hp] at hverdict
    cases hverdict
  | cons x rest ih =>
    obtain ⟨now, s⟩ := x
    obtain ⟨m', hs, hrun⟩ := run?_cons h
    have hothers : ∀ x ∈ rest, x.2.caller? = some i :=
      fun x hx => hrest x (List.mem_cons_of_mem _ hx)
    obtain ⟨p', hc', ⟨hp', hcache⟩ | ⟨n, rfl, hsize⟩⟩ :=
      sweep_of_moves (moves_of_step? hs) (hrest _ List.mem_cons_self) hc hp
    · obtain ⟨n, hn, hsize⟩ := ih hrun hothers hc' hp'
      rw [hcache] at hsize
      exact ⟨n, hn, hsize⟩
    · obtain rfl := eq_of_isOver hrun hothers hc' rfl
      rw [answer?, hc'] at ha
      exact ⟨n, (Option.some.inj ha).symm, hsize⟩

end Meeting

end SapMonitor.Cache
