import SapMonitor.Proofs.Cache.Exclusion
import SapMonitor.Proofs.Cache.Shows

/-!
# Single flight

A burst of fetches of one key is served by one population.  The first caller that
claims the key populates it, since nothing is live there; everybody else finds what
it has stored, at the first check or at the second, as long as that is live.

A burst goes through three stages: it is quiet, then one caller is busy, then it is
settled.  Each stage says what the fetches of the key have come to and what is live,
and each turn of the key keeps the stage or leads to the next.

Main results:

- `Meeting.Quiet.run`, `Meeting.Busy.run` and `Meeting.Shows.stay`: the stages along a
  run.
- `Meeting.Burst.flight`: a burst is served by one population.
- `Meeting.single_flight`: every run is single flight, and so are its bursts.
-/

namespace SapMonitor.Cache

open Time (Span)

variable {ν : Type}

/-- Whether a caller fetches a key. -/
def Caller.fetches (key : String) (c : Caller ν) : Bool :=
  c.request = .fetch key

namespace Meeting

/-! ## The rest of a burst -/

/-- What the rest of a run, which leads to `e`, has to do with a key: every fetch of it
comes to its end, nobody removes it, the fetches check it up to a moment, and what
they store lives at that moment. -/
structure Ahead (key : String) (last : Nat) (rest : List (Nat × Step ν)) (e : Meeting ν) :
    Prop where
  answered : ∀ i, e.request? i = some (.fetch key) → (e.answer? i).isSome = true
  kept : ∀ i, e.request? i ≠ some (.remove key)
  checked : ∀ now i, (now, Step.proceed i) ∈ rest → e.request? i = some (.fetch key) → now ≤ last
  stored : ∀ now i v d, (now, Step.finish i v d) ∈ rest → e.request? i = some (.fetch key) →
    (Entry.ofPopulation v d now).isLive last = true

namespace Ahead

variable {key : String} {last now : Nat} {s : Step ν} {rest : List (Nat × Step ν)}
  {e m : Meeting ν}

theorem tail (h : Ahead key last ((now, s) :: rest) e) : Ahead key last rest e where
  answered := h.answered
  kept := h.kept
  checked _ _ hm := h.checked _ _ (List.mem_cons_of_mem _ hm)
  stored _ _ _ _ hm := h.stored _ _ _ _ (List.mem_cons_of_mem _ hm)

/-- Nobody is dropped who fetches the key. -/
theorem not_gone (h : Ahead key last rest e) {history : List (Nat × Step ν)}
    (hrun : m.run? history = some e) {i : Nat} {c : Caller ν} (hc : m.callers[i]? = some c)
    (hr : c.request = .fetch key) : c.phase ≠ .gone := by
  intro hg
  rcases caller_of_run? hrun hc with ⟨c', hc', hr', hp'⟩
  have hrequest : e.request? i = some (.fetch key) := by
    rw [request?, hc', Option.map_some, hr', hr]
  have hanswer := h.answered i hrequest
  have hgone : c'.phase = .gone := (hp' (by rw [hg]; rfl)).trans hg
  rw [answer?, hc', Option.bind_some, hgone] at hanswer
  cases hanswer

end Ahead

/-! ## The stages of a burst -/

/-- Nobody has populated the key yet. -/
structure Quiet (key : String) (m : Meeting ν) (t : Nat) : Prop where
  idle : ∀ i, m.progress key i = (false, none)
  dead : ∀ n, t ≤ n → m.cache.live? key n = none

/-- One caller populates the key, and nobody has got anything. -/
structure Busy (key : String) (w : Nat) (m : Meeting ν) (t : Nat) : Prop where
  winner : m.progress key w = (true, none)
  idle : ∀ i, i ≠ w → m.progress key i = (false, none)
  dead : ∀ n, t ≤ n → m.cache.live? key n = none

/-- One caller has populated the key, and whoever else got anything has found that. -/
structure Settled (key : String) (w : Nat) (v : ν) (m : Meeting ν) : Prop where
  winner : m.progress key w = (false, some (.populated v))
  others : ∀ i, i ≠ w → m.progress key i = (false, none) ∨
    m.progress key i = (false, some (.found v))

section Stages

variable {key : String} {last t now w : Nat} {v : ν} {s : Step ν} {rest : List (Nat × Step ν)}
  {m m' e : Meeting ν}

/-- What the fetches are answered keeps a key settled. -/
theorem Settled.of_shows (hm : Settled key w v m) {d : Span} (h : Shows key v d t m e now) :
    Settled key w v e := by
  constructor
  · rcases h.answers w with hsame | ⟨hidle, -⟩
    · rw [hsame, hm.winner]
    · rw [hm.winner] at hidle
      cases hidle
  · intro i hi
    rcases h.answers i with hsame | ⟨-, hfound⟩
    · rw [hsame]
      exact hm.others i hi
    · exact .inr hfound

/-- While what is shown lives until the last check, nobody populates the key again. -/
theorem Shows.stay {d : Span} {m₁ : Meeting ν} (hm : Shows key v d now m₁ m t) (ho : Orderly m t)
    (ht : Timed t rest) (hrun : m.run? rest = some e) (ha : Ahead key last rest e)
    (hlast : (Entry.ofPopulation v d now).isLive last = true) :
    Shows key v d now m₁ e (endTime t rest) ∧ populations key m rest = [] := by
  induction rest generalizing m t with
  | nil =>
    cases hrun
    exact ⟨hm, rfl⟩
  | cons step rest ih =>
    rcases step with ⟨later, s⟩
    rcases run?_cons hrun with ⟨m', hs, hrest⟩
    have hkept : ∀ i, m.request? i ≠ some (.remove key) :=
      fun i hr => ha.kept i (request?_of_run? hrun hr)
    rcases hm.step ho ht.1 hs hkept with ⟨hm', hb, -⟩ | ⟨hdead, i, hb⟩
    · rcases ih hm' (ho.step ht.1 (moves_of_step? hs)) ht.2 hrest ha.tail with ⟨hshows, hp⟩
      refine ⟨hshows, ?_⟩
      rw [populations_cons hs, hb, hp]
      rfl
    · -- whoever begins has checked in time, but then there was something live
      rcases eq_proceed_of_begun hb with ⟨rfl, hbusy⟩
      have hrequest : e.request? i = some (.fetch key) := by
        refine request_of_progress_run? hrest rfl fun hidle => ?_
        rw [hidle] at hbusy
        cases hbusy
      have hle := ha.checked later i List.mem_cons_self hrequest
      rw [Entry.isLive_of_le hle hlast] at hdead
      cases hdead

/-- A busy key stays busy, or what the caller has populated settles it. -/
theorem Busy.step (hm : Busy key w m t) (ho : Orderly m t) (ht : t ≤ now)
    (hs : m.step? now s = some m') (hrun : m'.run? rest = some e)
    (ha : Ahead key last ((now, s) :: rest) e) :
    (Busy key w m' now ∨ ∃ v d, Settled key w v m' ∧ Shows key v d now m' m' now ∧
      (Entry.ofPopulation v d now).isLive last = true) ∧ begun key m m' s = [] := by
  have hdead : ∀ n, now ≤ n → m.cache.live? key n = none :=
    fun n hn => hm.dead n (Nat.le_trans ht hn)
  have hother {i : Nat} {a : Bool × Option (Answer ν)} (hi : m.progress key i = a)
      (hne : a ≠ (false, none)) : i = w := by
    refine Decidable.byContradiction fun hiw => hne ?_
    rw [← hi, hm.idle i hiw]
  cases ho.turn ht (moves_of_step? hs) key with
  | pass hl hp =>
    refine ⟨.inl ⟨?_, ?_, ?_⟩, begun_of_same hp _⟩
    · rw [hp, hm.winner]
    · rw [hp]
      exact hm.idle
    · intro n hn
      rw [hl n hn, hdead n hn]
  | find i v hv hi hl hp =>
    rw [hdead now (Nat.le_refl now)] at hv
    cases hv
  | begin i hv hn hi hl hp =>
    have hfalse := hn w
    rw [hm.winner] at hfalse
    cases hfalse
  | finish i v d hf hi hl hp =>
    obtain rfl : i = w := hother hi (by simp)
    have hself : m'.progress key i = (false, some (.populated v)) := by
      rw [hp, Function.update_self]
    have hstored : (Entry.ofPopulation v d now).isLive last = true :=
      ha.stored now i v d List.mem_cons_self (request_of_progress_run? hrun hself (by simp))
    have hothers : ∀ j, j ≠ i → m'.progress key j = (false, none) := by
      intro j hj
      rw [hp, Function.update_of_ne hj, hm.idle j hj]
    refine ⟨.inr ⟨v, d, ⟨hself, fun j hj => .inl (hothers j hj)⟩, ⟨?_, ?_, ?_⟩, hstored⟩, rfl⟩
    · intro n _
      exact hl n
    · intro j
      by_cases hj : j = i
      · rw [hj, hself]
      · rw [hothers j hj]
    · intro j
      exact .inl rfl
  | drop i hi hc hr hg hl hp => exact absurd hg (ha.not_gone hrun hc hr)
  | erase i hc hr hl hp => exact absurd hr (ne_remove_of_run? (run?_cons_of hs hrun) ha.kept hc)

/-- A quiet key stays quiet, or one caller gets busy. -/
theorem Quiet.step (hm : Quiet key m t) (ho : Orderly m t) (ht : t ≤ now)
    (hs : m.step? now s = some m') (hrun : m'.run? rest = some e)
    (ha : Ahead key last ((now, s) :: rest) e) :
    (Quiet key m' now ∧ begun key m m' s = []) ∨
      ∃ w, Busy key w m' now ∧ begun key m m' s = [w] := by
  have hdead : ∀ n, now ≤ n → m.cache.live? key n = none :=
    fun n hn => hm.dead n (Nat.le_trans ht hn)
  cases ho.turn ht (moves_of_step? hs) key with
  | pass hl hp =>
    refine .inl ⟨⟨?_, ?_⟩, begun_of_same hp _⟩
    · rw [hp]
      exact hm.idle
    · intro n hn
      rw [hl n hn, hdead n hn]
  | find i v hv hi hl hp =>
    rw [hdead now (Nat.le_refl now)] at hv
    cases hv
  | begin i hv hn hi hl hp =>
    have hself : m'.progress key i = (true, none) := by
      rw [hp, Function.update_self]
    refine .inr ⟨i, ⟨hself, fun j hj => ?_, fun n hn => ?_⟩, ?_⟩
    · rw [hp, Function.update_of_ne hj, hm.idle j]
    · rw [hl n hn, hdead n hn]
    · exact begun_of_busy hi hp
  | finish i v d hf hi hl hp =>
    rw [hm.idle i] at hi
    cases hi
  | drop i hi hc hr hg hl hp => exact absurd hg (ha.not_gone hrun hc hr)
  | erase i hc hr hl hp => exact absurd hr (ne_remove_of_run? (run?_cons_of hs hrun) ha.kept hc)

/-! ### The stages along a run -/

theorem Busy.run (hm : Busy key w m t) (ho : Orderly m t) (ht : Timed t rest)
    (hrun : m.run? rest = some e) (ha : Ahead key last rest e) :
    ((∃ t', Busy key w e t') ∨ ∃ v, Settled key w v e) ∧ populations key m rest = [] := by
  induction rest generalizing m t with
  | nil =>
    cases hrun
    exact ⟨.inl ⟨t, hm⟩, rfl⟩
  | cons step rest ih =>
    rcases step with ⟨now, s⟩
    rcases run?_cons hrun with ⟨m₁, hs, hrest⟩
    have ho₁ := ho.step ht.1 (moves_of_step? hs)
    rcases hm.step ho ht.1 hs hrest ha with ⟨hm₁ | ⟨v, d, hsettled, hshows, hlast⟩, hb⟩
    · rcases ih hm₁ ho₁ ht.2 hrest ha.tail with ⟨he, hp⟩
      refine ⟨he, ?_⟩
      rw [populations_cons hs, hb, hp]
      rfl
    · rcases hshows.stay ho₁ ht.2 hrest ha.tail hlast with ⟨he, hp⟩
      refine ⟨.inr ⟨v, hsettled.of_shows he⟩, ?_⟩
      rw [populations_cons hs, hb, hp]
      rfl

theorem Quiet.run (hm : Quiet key m t) (ho : Orderly m t) (ht : Timed t rest)
    (hrun : m.run? rest = some e) (ha : Ahead key last rest e) :
    (∃ t', Quiet key e t') ∨
      ∃ w, ((∃ t', Busy key w e t') ∨ ∃ v, Settled key w v e) ∧
        populations key m rest = [w] := by
  induction rest generalizing m t with
  | nil =>
    cases hrun
    exact .inl ⟨t, hm⟩
  | cons step rest ih =>
    rcases step with ⟨now, s⟩
    rcases run?_cons hrun with ⟨m₁, hs, hrest⟩
    have ho₁ := ho.step ht.1 (moves_of_step? hs)
    rcases hm.step ho ht.1 hs hrest ha with ⟨hm₁, hb⟩ | ⟨w, hm₁, hb⟩
    · rcases ih hm₁ ho₁ ht.2 hrest ha.tail with he | ⟨w, he, hp⟩
      · exact .inl he
      · refine .inr ⟨w, he, ?_⟩
        rw [populations_cons hs, hb, hp]
        rfl
    · rcases hm₁.run ho₁ ht.2 hrest ha.tail with ⟨he, hp⟩
      refine .inr ⟨w, he, ?_⟩
      rw [populations_cons hs, hb, hp]
      rfl

end Stages

/-! ## Bursts -/

/-- A run that leads to `e` is a burst of fetches of a key: nothing is live there when
it starts, there are fetches, and `Ahead` holds of the whole run. -/
structure Burst (key : String) (start last : Nat) (c : ExpiringCache ν)
    (history : List (Nat × Step ν)) (e : Meeting ν) : Prop extends Ahead key last history e where
  absent : c.live? key start = none
  fetched : ∃ i, e.request? i = some (.fetch key)

/-- One caller populates the key, and everybody else who fetches it finds what that
has stored.  Hits and misses are counted accordingly, besides those of other keys. -/
structure Flight (key : String) (c : ExpiringCache ν) (history : List (Nat × Step ν))
    (e : Meeting ν) (w : Nat) (v : ν) : Prop where
  once : populations key { cache := c } history = [w]
  request : e.request? w = some (.fetch key)
  winner : e.answer? w = some (.populated v)
  others : ∀ i, i ≠ w → e.request? i = some (.fetch key) → e.answer? i = some (.found v)
  hits : e.cache.counters.hits = c.counters.hits + (e.callers.countP (Caller.fetches key) - 1) +
    e.callers.countP fun x => x.isHit && !x.fetches key
  misses : e.cache.counters.misses = c.counters.misses + 1 +
    e.callers.countP fun x => x.isMiss && !x.fetches key

/-- A settled key in answers. -/
theorem Settled.answers {key : String} {w : Nat} {v : ν} {e : Meeting ν}
    (he : Settled key w v e)
    (ha : ∀ i, e.request? i = some (.fetch key) → (e.answer? i).isSome = true) :
    e.request? w = some (.fetch key) ∧ e.answer? w = some (.populated v) ∧
      ∀ i, i ≠ w → e.request? i = some (.fetch key) → e.answer? i = some (.found v) := by
  have hrequest : e.request? w = some (.fetch key) :=
    request_of_progress (by rw [he.winner]; simp)
  have hwinner : e.answer? w = some (.populated v) := by
    have hp := progress_of_request hrequest
    rw [he.winner] at hp
    exact (Prod.mk.inj hp).2.symm
  refine ⟨hrequest, hwinner, fun i hi hr => ?_⟩
  have hp := progress_of_request hr
  have hsome := ha i hr
  rcases he.others i hi with h | h
  · rw [h] at hp
    rw [← (Prod.mk.inj hp).2] at hsome
    cases hsome
  · rw [h] at hp
    exact (Prod.mk.inj hp).2.symm

/-- A list has one element with a property if it has one at one place only. -/
theorem countP_eq_one {α : Type} {p : α → Bool} {l : List α} {w : Nat} {a : α}
    (ha : l[w]? = some a) (hp : p a = true)
    (hu : ∀ i b, i ≠ w → l[i]? = some b → p b = false) : l.countP p = 1 := by
  induction l generalizing w with
  | nil => cases ha
  | cons x xs ih =>
    cases w with
    | zero =>
      have hxa : x = a := Option.some.inj ha
      have hzero : xs.countP p = 0 := by
        rw [List.countP_eq_zero]
        intro b hb
        rcases List.mem_iff_getElem?.1 hb with ⟨i, hi⟩
        rw [hu (i + 1) b (Nat.succ_ne_zero i) hi]
        exact Bool.false_ne_true
      rw [List.countP_cons_of_pos (hxa ▸ hp), hzero]
    | succ k =>
      have hx : p x = false := hu 0 x (Nat.succ_ne_zero k).symm rfl
      rw [List.countP_cons_of_neg (by rw [hx]; exact Bool.false_ne_true)]
      exact ih ha fun i b hi hb => hu (i + 1) b (fun h => hi (Nat.succ.inj h)) hb

/-- What is counted is counted with a condition or without it. -/
theorem countP_and_add_not {α : Type} (p q : α → Bool) (l : List α) :
    l.countP p = l.countP (fun a => p a && q a) + l.countP fun a => p a && !q a := by
  rw [List.countP_eq_countP_filter_add l p q, List.countP_filter, List.countP_filter]

theorem request?_iff {m : Meeting ν} {i : Nat} {c : Caller ν} (hc : m.callers[i]? = some c)
    (key : String) : c.fetches key = true ↔ m.request? i = some (.fetch key) := by
  rw [request?, hc, Option.map_some, Option.some_inj]
  exact decide_eq_true_iff

theorem phase_of_answer? {m : Meeting ν} {i : Nat} {c : Caller ν} {a : Answer ν}
    (hc : m.callers[i]? = some c) (ha : m.answer? i = some a) : c.phase = .done a := by
  rw [answer?, hc, Option.bind_some] at ha
  cases hp : c.phase with
  | done b =>
    rw [hp] at ha
    exact congrArg _ (Option.some.inj ha)
  | _ =>
    rw [hp] at ha
    cases ha

/-- The callers of a flight are hits, except the one that is a miss. -/
theorem countP_of_answers {key : String} {w : Nat} {v : ν} {e : Meeting ν}
    (hrequest : e.request? w = some (.fetch key)) (hwinner : e.answer? w = some (.populated v))
    (hothers : ∀ i, i ≠ w → e.request? i = some (.fetch key) → e.answer? i = some (.found v)) :
    e.callers.countP (fun x => x.isHit && x.fetches key) =
        e.callers.countP (Caller.fetches key) - 1 ∧
      e.callers.countP (fun x => x.isMiss && x.fetches key) = 1 := by
  rcases Option.map_eq_some_iff.1 hrequest with ⟨c, hc, hr⟩
  have hphase : c.phase = .done (.populated v) := phase_of_answer? hc hwinner
  have hfetches : c.fetches key = true := decide_eq_true hr
  have hother {i : Nat} {x : Caller ν} (hi : i ≠ w) (hx : e.callers[i]? = some x)
      (hf : x.fetches key = true) : x.phase = .done (.found v) :=
    phase_of_answer? hx (hothers i hi ((request?_iff hx key).1 hf))
  constructor
  · have hrest : e.callers.countP (fun x => x.fetches key && !x.isHit) = 1 := by
      refine countP_eq_one hc ?_ fun i x hi hx => ?_
      · rw [hfetches, Caller.isHit, hphase]
        rfl
      · cases hf : x.fetches key with
        | false => rfl
        | true =>
          rw [Caller.isHit, hother hi hx hf]
          rfl
    have hsplit := countP_and_add_not (Caller.fetches key) Caller.isHit e.callers
    rw [hrest] at hsplit
    rw [hsplit, Nat.add_sub_cancel]
    congr 1
    funext x
    exact Bool.and_comm _ _
  · refine countP_eq_one hc ?_ fun i x hi hx => ?_
    · rw [hfetches, Caller.isMiss, hphase]
      rfl
    · cases hf : x.fetches key with
      | false => exact Bool.and_false _
      | true =>
        rw [Caller.isMiss, hother hi hx hf]
        rfl

/-- A burst is served by one population. -/
theorem Burst.flight {key : String} {start last : Nat} {c : ExpiringCache ν}
    {history : List (Nat × Step ν)} {e : Meeting ν} (hb : Burst key start last c history e)
    (ht : Timed start history) (h : ({ cache := c } : Meeting ν).run? history = some e) :
    ∃ w v, Flight key c history e w v := by
  have hquiet : Quiet key ({ cache := c } : Meeting ν) start :=
    ⟨fun i => rfl, fun n hn => ExpiringCache.live?_none_of_le hn hb.absent⟩
  rcases hb.fetched with ⟨i, hi⟩
  have hsome := hb.answered i hi
  have hprogress := progress_of_request hi
  rcases hquiet.run (.start c start) ht h hb.toAhead with ⟨t, he⟩ | ⟨w, ⟨t, he⟩ | ⟨v, he⟩, hp⟩
  · rw [he.idle i] at hprogress
    rw [← (Prod.mk.inj hprogress).2] at hsome
    cases hsome
  · have hw : e.request? w = some (.fetch key) :=
      request_of_progress (by rw [he.winner]; simp)
    have hpw := progress_of_request hw
    have hsomew := hb.answered w hw
    rw [he.winner] at hpw
    rw [← (Prod.mk.inj hpw).2] at hsomew
    cases hsomew
  · rcases he.answers hb.answered with ⟨hrequest, hwinner, hothers⟩
    rcases countP_of_answers hrequest hwinner hothers with ⟨hhits, hmisses⟩
    have htally := (Tally.start c).run h
    refine ⟨w, v, hp, hrequest, hwinner, hothers, ?_, ?_⟩
    · rw [htally.hits, countP_and_add_not Caller.isHit (Caller.fetches key), hhits, Nat.add_assoc]
    · rw [htally.misses, countP_and_add_not Caller.isMiss (Caller.fetches key), hmisses,
        Nat.add_assoc]

/-- Every run from the moment at which the cache is opened is single flight, and each of
its bursts is served by one population. -/
theorem single_flight {c : ExpiringCache ν} {start : Nat} {history : List (Nat × Step ν)}
    {e : Meeting ν} (ht : Timed start history)
    (h : ({ cache := c } : Meeting ν).run? history = some e) :
    SingleFlight e ∧
      ∀ key last, Burst key start last c history e → ∃ w v, Flight key c history e w v := by
  have ho := (Orderly.start c start).run ht h
  exact ⟨singleFlight_of_orderly ho, fun key last hb => hb.flight ht h⟩

/-- Two fetches that both miss at the first check: one populates, the other finds that
at the second check. -/
def overlap : List (Nat × Step Nat) :=
  [(0, .come (.fetch "a")), (0, .come (.fetch "a")), (1, .grant 0), (1, .grant 1),
    (1, .proceed 0), (1, .proceed 1), (2, .grant 0), (2, .proceed 0), (5, .finish 0 7 .zero),
    (6, .grant 1), (6, .proceed 1)]

/-- What two such fetches come to. -/
def overlapEnd : Meeting Nat where
  cache :=
    { name := "cache", entries := [("a", ⟨7, none⟩)],
      counters := { hits := 1, misses := 1, sets := 1 } }
  callers :=
    [⟨.fetch "a", 0, .done (.populated 7)⟩, ⟨.fetch "a", 0, .done (.found 7)⟩]

theorem single_flight_overlap :
    Timed 0 overlap ∧
      ({ cache := .empty "cache" } : Meeting Nat).run? overlap = some overlapEnd ∧
      SingleFlight overlapEnd ∧ Burst "a" 0 6 (.empty "cache") overlap overlapEnd ∧
      ∃ w v, Flight "a" (.empty "cache") overlap overlapEnd w v := by
  have ht : Timed 0 overlap := by simp [Timed, overlap]
  have hrun : ({ cache := .empty "cache" } : Meeting Nat).run? overlap = some overlapEnd := rfl
  have hb : Burst "a" 0 6 (.empty "cache") overlap overlapEnd := by
    refine { answered := ?_, kept := ?_, checked := ?_, stored := ?_, absent := rfl, fetched := ⟨0, rfl⟩ }
    · rintro (_ | _ | i) hi
      · rfl
      · rfl
      · cases hi
    · rintro (_ | _ | i) hi <;> cases hi
    · intro now i hi _
      simp only [overlap, List.mem_cons, Prod.mk.injEq, Step.proceed.injEq, reduceCtorEq,
        and_false, List.not_mem_nil, or_false, false_or] at hi
      omega
    · intro now i v d hi _
      simp only [overlap, List.mem_cons, Prod.mk.injEq, Step.finish.injEq, reduceCtorEq,
        and_false, List.not_mem_nil, or_false, false_or] at hi
      rcases hi with ⟨rfl, rfl, rfl, rfl⟩
      rfl
  rcases single_flight ht hrun with ⟨hsingle, hburst⟩
  exact ⟨ht, hrun, hsingle, hb, hburst "a" 6 hb⟩

end Meeting

end SapMonitor.Cache
