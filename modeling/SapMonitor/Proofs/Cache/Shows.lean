import SapMonitor.Proofs.Cache.Populations

/-!
# What a key shows

A population that is complete is shown to everybody who fetches its key until it
ends, and nobody populates the key before.  Once it has ended nobody gets anything,
and the first caller that owns the lock populates the key again.

A key shows a population as long as nobody begins the next one; every step but that one
keeps it.

Main results:

- `Meeting.Shows.step`: a step keeps what a key shows, or begins to populate it.
- `Meeting.Shows.run`: while a population lives, no other begins.
- `Meeting.Shows.again`: after its end nobody is answered before the next begins.
-/

namespace SapMonitor.Cache

open Time (Span)

variable {ν : Type}

namespace Meeting

/-! ## What a key shows -/

/-- A key shows a population that was complete at `t` and led to `m₁`: it is live until
it ends, nobody has begun to populate the key since, and whoever got anything since
has found it. -/
structure Shows (key : String) (v : ν) (d : Span) (t : Nat) (m₁ m : Meeting ν) (now : Nat) :
    Prop where
  live : ∀ n, now ≤ n →
    m.cache.live? key n = if (Entry.ofPopulation v d t).isLive n then some v else none
  idle : ∀ i, (m.progress key i).1 = false
  answers : ∀ i, m.progress key i = m₁.progress key i ∨
    m₁.progress key i = (false, none) ∧ m.progress key i = (false, some (.found v))

section Shows

variable {key : String} {v : ν} {d : Span} {t t' now : Nat} {s : Step ν}
  {mid : List (Nat × Step ν)} {m₀ m₁ m m' e : Meeting ν}

/-- A population that is complete is shown, if the clock tells its end. -/
theorem shows_of_finish (ho : Orderly m₀ t') {i : Nat} (hd : d.fits t = true)
    (hs : m₀.step? t (.finish i v d) = some m₁) (hrun : m₁.run? mid = some e) (hi : e.request? i = some (.fetch key)) :
    Shows key v d t m₁ m₁ t := by
  cases moves_of_step? hs with
  | lose _ _ hc hr hp hf => cases hf.symm.trans hd
  | @finish i c k stale _ _ hc hr hp hf =>
    have hrequest : m₀.request? i = some (.fetch k) := by
      rw [request?, hc, Option.map_some, hr]
    obtain rfl : k = key := by
      have hlater := request?_of_run? (run?_cons_of hs hrun) hrequest
      rw [hi] at hlater
      exact (Request.fetch.inj (Option.some.inj hlater)).symm
    have hdone : ({ c with phase := .done (.populated v) } : Caller ν).progress k =
        (false, some (.populated v)) := Caller.progress_of_fetch hr
    refine ⟨fun n _ => m₀.cache.live?_store_self k v d t n stale, fun j => ?_, fun j => .inl rfl⟩
    rw [progress_put hc]
    by_cases hj : j = i
    · rw [hj, Function.update_self, hdone]
    · rw [Function.update_of_ne hj]
      exact ho.progress_fst_of_owns hc (by rw [hp]; rfl) hj k

/-- A fetch that finds what a key shows keeps it. -/
theorem Shows.find (hm : Shows key v d t m₁ m t') (ht : t' ≤ now) {i : Nat}
    (hi : m.progress key i = (false, none))
    (hl : ∀ n, now ≤ n → m'.cache.live? key n = m.cache.live? key n)
    (hp : m'.progress key = Function.update (m.progress key) i (false, some (.found v))) :
    Shows key v d t m₁ m' now := by
  have hfirst : m₁.progress key i = (false, none) := by
    rcases hm.answers i with hsame | ⟨-, hfound⟩
    · rw [← hsame, hi]
    · rw [hi] at hfound
      cases hfound
  have hself : m'.progress key i = (false, some (.found v)) := by
    rw [hp, Function.update_self]
  refine ⟨fun n hn => ?_, fun j => ?_, fun j => ?_⟩
  · rw [hl n hn, hm.live n (Nat.le_trans ht hn)]
  · by_cases hj : j = i
    · rw [hj, hself]
    · rw [hp, Function.update_of_ne hj]
      exact hm.idle j
  · by_cases hj : j = i
    · rw [hj]
      exact .inr ⟨hfirst, hself⟩
    · rw [hp, Function.update_of_ne hj]
      exact hm.answers j

/-- A step keeps what a key shows; or else the population has ended, and somebody begins to
populate the key. -/
theorem Shows.step (hm : Shows key v d t m₁ m t') (ho : Orderly m t') (ht : t' ≤ now)
    (hs : m.step? now s = some m')
    (hkept : ∀ i, m.request? i ≠ some (.remove key)) :
    (Shows key v d t m₁ m' now ∧ begun key m m' s = [] ∧
      ((Entry.ofPopulation v d t).isLive now = false → m'.progress key = m.progress key)) ∨
    ((Entry.ofPopulation v d t).isLive now = false ∧ ∃ i, begun key m m' s = [i]) := by
  have hlater : ∀ n, now ≤ n →
      m.cache.live? key n = if (Entry.ofPopulation v d t).isLive n then some v else none :=
    fun n hn => hm.live n (Nat.le_trans ht hn)
  have hbusy {i : Nat} (hi : m.progress key i = (true, none)) : False := by
    have hidle := hm.idle i
    rw [hi] at hidle
    cases hidle
  cases ho.turn ht (moves_of_step? hs) key with
  | pass hl hp =>
    refine .inl ⟨⟨fun n hn => ?_, ?_, ?_⟩, begun_of_same hp _, fun _ => hp⟩
    · rw [hl n hn, hlater n hn]
    · rw [hp]
      exact hm.idle
    · rw [hp]
      exact hm.answers
  | find i v' hv hi hl hp =>
    have hshown := hlater now (Nat.le_refl now)
    rw [hv] at hshown
    split at hshown
    · rename_i hlive
      obtain rfl := Option.some.inj hshown
      refine .inl ⟨hm.find ht hi hl hp, begun_of_idle hp, fun hdead => ?_⟩
      rw [hlive] at hdead
      cases hdead
    · cases hshown
  | begin i hv hn hi hl hp =>
    have hshown := hlater now (Nat.le_refl now)
    rw [hv] at hshown
    have hdead : (Entry.ofPopulation v d t).isLive now = false := by
      cases hlive : (Entry.ofPopulation v d t).isLive now with
      | false => rfl
      | true =>
        rw [hlive] at hshown
        cases hshown
    exact .inr ⟨hdead, i, begun_of_busy hi hp⟩
  | finish i v' d' hf hi hl hp => exact (hbusy hi).elim
  | drop i hi hc hr hg hl hp => exact (hbusy hi).elim
  | erase i hc hr hl hp =>
    refine absurd ?_ (hkept i)
    rw [request?, hc, Option.map_some, hr]

/-- While a population lives, no other begins; and it is shown until the next begins. -/
theorem Shows.run (hm : Shows key v d t m₁ m t') (ho : Orderly m t') (ht : Timed t' mid)
    (hrun : m.run? mid = some e) (hkept : ∀ i, e.request? i ≠ some (.remove key)) :
    (populations key m mid = [] → Shows key v d t m₁ e (endTime t' mid)) ∧
      ((∀ x ∈ mid, (Entry.ofPopulation v d t).isLive x.1 = true) → populations key m mid = []) := by
  induction mid generalizing m t' with
  | nil =>
    cases hrun
    exact ⟨fun _ => hm, fun _ => rfl⟩
  | cons step rest ih =>
    rcases step with ⟨now, s⟩
    rcases run?_cons hrun with ⟨m', hs, hrest⟩
    rw [populations_cons hs]
    have ho' := ho.step ht.1 (moves_of_step? hs)
    rcases hm.step ho ht.1 hs (fun i hr => hkept i (request?_of_run? hrun hr)) with
      ⟨hm', hb, -⟩ | ⟨hdead, i, hb⟩
    · rcases ih hm' ho' ht.2 hrest with ⟨hshows, hnone⟩
      rw [hb, List.nil_append]
      exact ⟨hshows, fun hlive => hnone fun x hx => hlive x (List.mem_cons_of_mem _ hx)⟩
    · rw [hb]
      refine ⟨fun hnil => absurd hnil (List.cons_ne_nil _ _), fun hlive => ?_⟩
      have hlivenow := hlive (now, s) List.mem_cons_self
      rw [hdead] at hlivenow
      cases hlivenow

/-- Whoever got anything since has found what is shown. -/
theorem Shows.answer (hm : Shows key v d t m₁ m t') {i : Nat} {a : Answer ν}
    (hr : m.request? i = some (.fetch key)) (ha : m.answer? i = some a) :
    m₁.answer? i = some a ∨ a = .found v := by
  have hp := progress_of_request hr
  rcases hm.answers i with h | ⟨-, h⟩
  · have hr₁ : m₁.request? i = some (.fetch key) := by
      refine request_of_progress fun hnone => ?_
      rw [← h, hp, ha] at hnone
      cases (Prod.mk.inj hnone).2
    rw [h, progress_of_request hr₁] at hp
    rw [(Prod.mk.inj hp).2, ha]
    exact .inl rfl
  · rw [h, ha] at hp
    exact .inr (Option.some.inj (Prod.mk.inj hp).2).symm

/-- After the end of a population nobody is answered before the next begins. -/
theorem Shows.again (hm : Shows key v d t m₁ m t') (ho : Orderly m t') (ht : t' ≤ now)
    (hs : m.step? now s = some m')
    (hkept : ∀ i, m.request? i ≠ some (.remove key))
    (hdead : (Entry.ofPopulation v d t).isLive now = false) (hb : begun key m m' s = []) {i : Nat}
    (hr : m.request? i = some (.fetch key)) : m'.answer? i = m.answer? i := by
  rcases hm.step ho ht hs hkept with ⟨-, -, hsame⟩ | ⟨-, j, hbegun⟩
  · have hrun : m.run? [(now, s)] = some m' := run?_cons_of hs rfl
    have hr' : m'.request? i = some (.fetch key) := request?_of_run? hrun hr
    have hp := congrFun (hsame hdead) i
    rw [progress_of_request hr, progress_of_request hr'] at hp
    exact (Prod.mk.inj hp).2
  · rw [hb] at hbegun
    cases hbegun

end Shows

end Meeting

end SapMonitor.Cache
