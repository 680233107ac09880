import SapMonitor.Proofs.Cache.Shows

/-!
# Windows of a population

What a key shows at the end of a run, and what its fetches were answered, comes from a
population of that key.  So an entry has an end if all lifetimes have one, and between
two populations of a key its readers get what the first of them has stored.

Main results:

- `Meeting.Readers.traced` and `Meeting.Readers.answered`: what is cached and what is
  answered comes from a population of the same key.
- `Meeting.Readers.ends`: no entry lives forever.
- `Meeting.Populated.alone` and `Meeting.Populated.live?`: a population of a run is shown,
  and no other begins while it lives.
-/

namespace SapMonitor.Cache

open Time (Span)

variable {ν : Type}

namespace Meeting

/-! ## Where a key comes from -/

/-- What a key shows is one of some populations, and so is what its fetches were answered. -/
structure Traced (key : String) (known : ν → Span → Nat → Prop) (m : Meeting ν) (now : Nat) :
    Prop where
  shown : (∀ n, now ≤ n → m.cache.live? key n = none) ∨
    ∃ v d t, known v d t ∧ ∀ n, now ≤ n →
      m.cache.live? key n = if (Entry.ofPopulation v d t).isLive n then some v else none
  answered : ∀ i a, (m.progress key i).2 = some a → ∃ v d t, known v d t ∧ a.value? = some v

section Traced

variable {key : String} {known : ν → Span → Nat → Prop} {t now : Nat} {s : Step ν}
  {rest : List (Nat × Step ν)} {m m' e : Meeting ν}

/-- What is live is one of the populations. -/
theorem Traced.known_of_live (hm : Traced key known m t) (ht : t ≤ now) {v : ν}
    (hv : m.cache.live? key now = some v) : ∃ d t, known v d t := by
  rcases hm.shown with hnone | ⟨v', d, t', hknown, hlive⟩
  · rw [hnone now ht] at hv
    cases hv
  · rw [hlive now ht] at hv
    split at hv
    · obtain rfl := Option.some.inj hv
      exact ⟨d, t', hknown⟩
    · cases hv

/-- A key that keeps what is live shows one of the populations still. -/
theorem Traced.shown_of_same (hm : Traced key known m t) (ht : t ≤ now)
    (hl : ∀ n, now ≤ n → m'.cache.live? key n = m.cache.live? key n) :
    (∀ n, now ≤ n → m'.cache.live? key n = none) ∨
      ∃ v d t, known v d t ∧ ∀ n, now ≤ n →
        m'.cache.live? key n = if (Entry.ofPopulation v d t).isLive n then some v else none := by
  rcases hm.shown with hnone | ⟨v, d, t', hknown, hlive⟩
  · exact .inl fun n hn => (hl n hn).trans (hnone n (Nat.le_trans ht hn))
  · exact .inr ⟨v, d, t', hknown, fun n hn => (hl n hn).trans (hlive n (Nat.le_trans ht hn))⟩

/-- One more answer that is one of the populations, or none. -/
theorem Traced.answered_of_update (hm : Traced key known m t) {i : Nat}
    {p : Bool × Option (Answer ν)} (hp : m'.progress key = Function.update (m.progress key) i p)
    (ha : ∀ a, p.2 = some a → ∃ v d t, known v d t ∧ a.value? = some v) (j : Nat) (a : Answer ν)
    (hj : (m'.progress key j).2 = some a) : ∃ v d t, known v d t ∧ a.value? = some v := by
  rw [hp] at hj
  by_cases hji : j = i
  · rw [hji, Function.update_self] at hj
    exact ha a hj
  · rw [Function.update_of_ne hji] at hj
    exact hm.answered j a hj

theorem Traced.step (hm : Traced key known m t) (ho : Orderly m t) (ht : t ≤ now)
    (hs : m.step? now s = some m')
    (hknown : ∀ i v d, s = .finish i v d → m.request? i = some (.fetch key) → known v d now) :
    Traced key known m' now := by
  cases ho.turn ht (moves_of_step? hs) key with
  | pass hl hp =>
    refine ⟨hm.shown_of_same ht hl, ?_⟩
    rw [hp]
    exact hm.answered
  | find i v hv hi hl hp =>
    rcases hm.known_of_live ht hv with ⟨d, t', hlive⟩
    refine ⟨hm.shown_of_same ht hl, hm.answered_of_update hp fun a ha => ?_⟩
    cases ha
    exact ⟨v, d, t', hlive, rfl⟩
  | begin i hv hn hi hl hp => exact ⟨hm.shown_of_same ht hl, hm.answered_of_update hp nofun⟩
  | finish i v d hf hi hl hp =>
    have hstored : known v d now :=
      hknown i v d rfl (request_of_progress (by rw [hi]; simp))
    refine ⟨.inr ⟨v, d, now, hstored, fun n _ => hl n⟩, hm.answered_of_update hp fun a ha => ?_⟩
    cases ha
    exact ⟨v, d, now, hstored, rfl⟩
  | drop i hi hc hr hg hl hp => exact ⟨hm.shown_of_same ht hl, hm.answered_of_update hp nofun⟩
  | erase i hc hr hl hp =>
    refine ⟨.inl fun n _ => hl n, ?_⟩
    rw [hp]
    exact hm.answered

theorem Traced.run (hm : Traced key known m t) (ho : Orderly m t) (ht : Timed t rest)
    (hrun : m.run? rest = some e)
    (hknown : ∀ now i v d, (now, Step.finish i v d) ∈ rest → e.request? i = some (.fetch key) →
      known v d now) : Traced key known e (endTime t rest) := by
  induction rest generalizing m t with
  | nil =>
    cases hrun
    exact hm
  | cons step rest ih =>
    rcases step with ⟨now, s⟩
    rcases run?_cons hrun with ⟨m', hs, hrest⟩
    have hm' : Traced key known m' now := by
      refine hm.step ho ht.1 hs fun i v d hfinish hr => ?_
      subst hfinish
      exact hknown now i v d List.mem_cons_self (request?_of_run? hrun hr)
    exact ih hm' (ho.step ht.1 (moves_of_step? hs)) ht.2 hrest fun n i v d hmem =>
      hknown n i v d (List.mem_cons_of_mem _ hmem)

end Traced

/-! ## Readers -/

/-- A run of readers: they come in time, at first to a cache without entries; nobody removes a
key; and every population of a key comes to what feeds it. -/
structure Readers (feeds : String → ν → Span → Prop) (name : String) (start : Nat)
    (history : List (Nat × Step ν)) (e : Meeting ν) : Prop where
  timed : Timed start history
  run : ({ cache := .empty name } : Meeting ν).run? history = some e
  kept : ∀ i key, e.request? i ≠ some (.remove key)
  fed : ∀ t i v d key, (t, Step.finish i v d) ∈ history → e.request? i = some (.fetch key) →
    feeds key v d

namespace Readers

variable {feeds : String → ν → Span → Prop} {name : String} {start : Nat}
  {history : List (Nat × Step ν)} {e : Meeting ν}

/-- What a key shows and what its fetches were answered are populations of that key. -/
theorem traced (h : Readers feeds name start history e) (key : String) :
    Traced key
      (fun v d t => ∃ i, (t, Step.finish i v d) ∈ history ∧ e.request? i = some (.fetch key)) e
      (endTime start history) := by
  have hempty : Traced key
      (fun v d t => ∃ i, (t, Step.finish i v d) ∈ history ∧ e.request? i = some (.fetch key))
      ({ cache := .empty name } : Meeting ν) start :=
    ⟨.inl fun _ _ => rfl, fun i a ha => by cases ha⟩
  exact hempty.run (.start _ _) h.timed h.run fun now i v d hmem hr => ⟨i, hmem, hr⟩

/-- What a fetch was answered comes from a population of its key. -/
theorem answered (h : Readers feeds name start history e) {key : String} {i : Nat} {a : Answer ν}
    (hr : e.request? i = some (.fetch key)) (ha : e.answer? i = some a) :
    ∃ v d t j, a.value? = some v ∧ (t, Step.finish j v d) ∈ history ∧
      e.request? j = some (.fetch key) ∧ feeds key v d := by
  have hp : (e.progress key i).2 = some a := by
    rw [progress_of_request hr, ha]
  rcases (h.traced key).answered i a hp with ⟨v, d, t, ⟨j, hmem, hj⟩, hv⟩
  exact ⟨v, d, t, j, hv, hmem, hj, h.fed t j v d key hmem hj⟩

/-- No entry lives forever if no population does. -/
theorem ends (h : Readers feeds name start history e)
    (hd : ∀ key v d, feeds key v d → d.isZero = false) {key : String} {entry : Entry ν}
    (hentry : (key, entry) ∈ e.cache.entries) : entry.ending.isSome = true := by
  cases hending : entry.ending with
  | some t => rfl
  | none =>
    have hlive (n : Nat) : e.cache.live? key n = some entry.value := by
      have hl : entry.isLive n = true := by
        rw [Entry.isLive, hending]
      rw [ExpiringCache.live?, ExpiringCache.find?_of_mem hentry, Option.filter_some, if_pos hl]
      rfl
    rcases (h.traced key).shown with hnone | ⟨v, d, t, ⟨i, hmem, hi⟩, hshown⟩
    · have hdead := hnone _ (Nat.le_refl _)
      rw [hlive] at hdead
      cases hdead
    · have hdead := hshown (max (endTime start history) (t + d.nanos)) (Nat.le_max_left _ _)
      have hspan := hd key v d (h.fed t i v d key hmem hi)
      rw [hlive, Entry.isLive_of_span v hspan, if_neg] at hdead
      · cases hdead
      · rw [decide_eq_true_eq]
        exact Nat.not_lt.2 (Nat.le_max_right _ _)

/-- A population of a run is shown if the clock tells its end, and the run goes on from it. -/
theorem shows {before mid : List (Nat × Step ν)} {t i : Nat} {v : ν} {d : Span} {key : String}
    (h : Readers feeds name start (before ++ (t, .finish i v d) :: mid) e)
    (hi : e.request? i = some (.fetch key)) (hd : d.fits t = true) {m₁ : Meeting ν}
    (h₁ : ({ cache := .empty name } : Meeting ν).run? (before ++ [(t, .finish i v d)]) = some m₁) :
    m₁.run? mid = some e ∧ Orderly m₁ t ∧ Timed t mid ∧ Shows key v d t m₁ m₁ t := by
  have hrun := h.run
  rw [run?_append] at hrun h₁
  rcases Option.bind_eq_some_iff.1 hrun with ⟨m₀, hm₀, hrest⟩
  rcases run?_cons hrest with ⟨m₁', hs, hmid⟩
  obtain rfl : m₁' = m₁ := by
    rw [hm₀, Option.bind_some] at h₁
    rcases run?_cons h₁ with ⟨m₂, hs', hnil⟩
    rw [hs] at hs'
    cases hs'
    exact Option.some.inj hnil
  rcases timed_append.1 h.timed with ⟨htbefore, ht, htmid⟩
  have ho := (Orderly.start (.empty name) start).run htbefore hm₀
  exact ⟨hmid, ho.step ht (moves_of_step? hs), htmid, shows_of_finish ho hd hs hmid hi⟩

end Readers

/-! ## Windows -/

/-- A run of readers in which a population of a key was complete at `t`, with an end that the
clock tells: that led to `m₁`, and `mid` followed, up to `e`. -/
def Populated (feeds : String → ν → Span → Prop) (name key : String) (v : ν) (d : Span) (t : Nat)
    (m₁ : Meeting ν) (mid : List (Nat × Step ν)) (e : Meeting ν) : Prop :=
  ∃ start before i, Readers feeds name start (before ++ (t, .finish i v d) :: mid) e ∧
    e.request? i = some (.fetch key) ∧ d.fits t = true ∧
    ({ cache := .empty name } : Meeting ν).run? (before ++ [(t, .finish i v d)]) = some m₁

namespace Populated

variable {feeds : String → ν → Span → Prop} {name key : String} {v : ν} {d : Span} {t now : Nat}
  {m₁ m' e : Meeting ν} {mid : List (Nat × Step ν)} {s : Step ν}

/-- The population is one of the key. -/
theorem fed (h : Populated feeds name key v d t m₁ mid e) : feeds key v d := by
  rcases h with ⟨start, before, i, hreaders, hi, -, -⟩
  refine hreaders.fed t i v d key ?_ hi
  exact List.mem_append_right before List.mem_cons_self

theorem kept (h : Populated feeds name key v d t m₁ mid e) (i : Nat) :
    e.request? i ≠ some (.remove key) := by
  rcases h with ⟨start, before, i', hreaders, -, -, -⟩
  exact hreaders.kept i key

/-- While the population lives, no other begins. -/
theorem alone (h : Populated feeds name key v d t m₁ mid e)
    (hlive : ∀ x ∈ mid, (Entry.ofPopulation v d t).isLive x.1 = true) :
    populations key m₁ mid = [] := by
  have hkept := h.kept
  rcases h with ⟨start, before, i, hreaders, hi, hd, h₁⟩
  rcases hreaders.shows hi hd h₁ with ⟨hrun, ho, ht, hshows⟩
  exact (hshows.run ho ht hrun hkept).2 hlive

/-- Until another begins, the key shows the population. -/
theorem shows (h : Populated feeds name key v d t m₁ mid e) (hp : populations key m₁ mid = []) :
    Orderly e (endTime t mid) ∧ Shows key v d t m₁ e (endTime t mid) := by
  have hkept := h.kept
  rcases h with ⟨start, before, i, hreaders, hi, hd, h₁⟩
  rcases hreaders.shows hi hd h₁ with ⟨hrun, ho, ht, hshows⟩
  exact ⟨ho.run ht hrun, (hshows.run ho ht hrun hkept).1 hp⟩

/-- Until another begins, whoever is answered has found the population. -/
theorem answer (h : Populated feeds name key v d t m₁ mid e) (hp : populations key m₁ mid = [])
    {i : Nat} {a : Answer ν} (hr : e.request? i = some (.fetch key)) (ha : e.answer? i = some a) :
    m₁.answer? i = some a ∨ a = .found v :=
  (h.shows hp).2.answer hr ha

/-- What is live, as long as no other population begins. -/
theorem live? (h : Populated feeds name key v d t m₁ mid e) (hp : populations key m₁ mid = [])
    (hn : endTime t mid ≤ now) :
    e.cache.live? key now = if (Entry.ofPopulation v d t).isLive now then some v else none :=
  (h.shows hp).2.live now hn

/-- Once the population has ended, nobody is answered before another begins. -/
theorem again (h : Populated feeds name key v d t m₁ mid e) (hp : populations key m₁ mid = [])
    (hn : endTime t mid ≤ now) (hdead : (Entry.ofPopulation v d t).isLive now = false)
    (hs : e.step? now s = some m') (hb : begun key e m' s = []) {i : Nat}
    (hr : e.request? i = some (.fetch key)) : m'.answer? i = e.answer? i := by
  have hkept := h.kept
  rcases h.shows hp with ⟨ho, hshows⟩
  exact hshows.again ho hn hs hkept hdead hb hr

end Populated

end Meeting

end SapMonitor.Cache
