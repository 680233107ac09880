import SapMonitor.Settings.Validate
import SapMonitor.Proofs.Monitor.Visits

/-!
# Fresh reads

Settings that pass validation bound the lifetimes: a failure is remembered for some
time, and never longer than an answer.  Under such a policy no entry lives forever.  An
answer is what every reader of its key gets until its lifetime is over, a failure until
the shorter one is over, and meanwhile the service is left in peace; the first reader
after that asks again.  Nobody is told what was asked under another key.  A population
whose lifetime goes beyond the end of the clock is not stored, so it gives nobody anything.

All of this holds for the runs of any readers, who may come together, wait for each
other and be dropped, and for any sequence of visits.

Main results:

- `Policy.bounded_of_validate`: validation bounds the lifetimes.
- `CachedRead.reliable_of_bounded`: what readers of a cache can rely on.
- `Frequented.fresh_of_bounded`: what a sequence of visits comes to.
-/

namespace SapMonitor

open Cache (ExpiringCache Entry Meeting Step)
open Cache.Meeting (Readers Populated)
open Landscape (Policy)
open Remote (Outcome)
open Time (Span)

/-! ## Bounded lifetimes -/

/-- A failure is remembered for some time, and no longer than an answer. -/
structure Landscape.Policy.Bounded (p : Policy) : Prop where
  pos : 0 < p.errorLifetime.nanos
  le : p.errorLifetime.nanos ≤ p.lifetime.nanos

/-- Validation bounds the lifetimes. -/
theorem Landscape.Policy.bounded_of_validate {idna : Url.Idna} {raw s : Settings}
    {notes : List Note} (h : raw.validate idna = .ok (s, notes)) : (Policy.ofSettings s).Bounded := by
  have hpos := Settings.clampTtl_pos raw.cacheTtl raw.cacheErrorTtl
  have hle := Settings.clampTtl_le raw.cacheTtl raw.cacheErrorTtl
  rw [← Settings.ttls_of_validate h] at hpos hle
  constructor
  · exact hpos
  · rw [Policy.ofSettings, Span.orElse_of_pos (Nat.lt_of_lt_of_le hpos hle)]
    exact hle

namespace CachedRead

variable {σ α ι : Type} {shelf : Shelf (Option α)} {p : Policy}

/-- Whatever is remembered has a lifetime. -/
theorem lifetimeOf_pos (hp : p.Bounded) (v : Option α) : 0 < (lifetimeOf p v).nanos := by
  have hpos := hp.pos
  have hle := hp.le
  unfold lifetimeOf
  split <;> omega

/-- Whatever is remembered lives until its lifetime is over. -/
theorem isLive_iff (hp : p.Bounded) (v : Option α) (t n : Nat) :
    (Entry.ofPopulation v (lifetimeOf p v) t).isLive n = true ↔
      n < t + (lifetimeOf p v).nanos := by
  rw [Entry.isLive_of_span v (Span.isZero_of_pos (lifetimeOf_pos hp v)), decide_eq_true_eq]

theorem isLive_eq_false_iff (hp : p.Bounded) (v : Option α) (t n : Nat) :
    (Entry.ofPopulation v (lifetimeOf p v) t).isLive n = false ↔
      t + (lifetimeOf p v).nanos ≤ n := by
  rw [← Bool.not_eq_true, isLive_iff hp, Nat.not_lt]

/-! ## Runs of readers -/

/-- What a population at `t` is good for up to a limit: nobody populates the key again,
whoever has been answered since has been told the same, and so is whoever reads now. -/
structure Window (p : Policy) (reads : ι → CachedRead σ shelf) (key : String)
    (told : CachedRead σ shelf → Outcome α) (t limit : Nat) (m₁ : Meeting (Option α))
    (mid : List (Nat × Step (Option α))) (e : Meeting (Option α)) : Prop where
  quiet : Meeting.populations key m₁ mid = []
  answered : ∀ i b k, e.request? i = some (.fetch key) → e.answer? i = some b →
    (reads k).key = key →
    m₁.answer? i = some b ∨ b.value?.map (reads k).reply = some (told (reads k))
  served : ∀ k m w, (reads k).key = key → shelf.get m = e.cache → Meeting.endTime t mid ≤ w.clock →
    w.clock < limit → (reads k).Served p m w (told (reads k))

/-- What happens to a key whose population has ended: nobody is answered before somebody
begins to populate it, which the first caller that owns the lock does; and whoever reads
now asks. -/
structure Ended (p : Policy) (reads : ι → CachedRead σ shelf) (key : String) (now : Nat)
    (e : Meeting (Option α)) : Prop where
  silent : ∀ s m', e.step? now s = some m' → Meeting.begun key e m' s = [] →
    ∀ i, e.request? i = some (.fetch key) → m'.answer? i = e.answer? i
  queued : ∀ i c m', e.callers[i]? = some c → c.request = .fetch key → c.phase = .reading →
    e.step? now (.proceed i) = some m' → m'.callers[i]? = some { c with phase := .queued }
  begins : ∀ i c m', e.callers[i]? = some c → c.request = .fetch key → c.phase = .owning →
    e.step? now (.proceed i) = some m' → Meeting.begun key e m' (.proceed i) = [i]
  asks : ∀ k m w, (reads k).key = key → shelf.get m = e.cache → w.clock = now →
    (reads k).Asks p m w

/-- What the readers of a cache can rely on, whenever they come. -/
structure Reliable (p : Policy) (name : String) (reads : ι → CachedRead σ shelf) : Prop where
  /-- No entry lives forever. -/
  ends : ∀ start history e, Readers (Feeds p reads) name start history e →
    ∀ key entry, (key, entry) ∈ e.cache.entries → entry.ending.isSome = true
  /-- An answer is what everybody gets during its lifetime, if the clock can tell its end. -/
  success : ∀ key a d t m₁ mid e, Populated (Feeds p reads) name key (some a) d t m₁ mid e →
    (∀ x ∈ mid, x.1 < t + p.lifetime.nanos) →
    Window p reads key (fun _ => .ok a) t (t + p.lifetime.nanos) m₁ mid e
  /-- A failure is what everybody gets during the shorter lifetime, likewise. -/
  failure : ∀ key d t m₁ mid e, Populated (Feeds p reads) name key none d t m₁ mid e →
    (∀ x ∈ mid, x.1 < t + p.errorLifetime.nanos) →
    Window p reads key (fun r => .error (.unavailable (r.operation ++ ": " ++ r.absence))) t
      (t + p.errorLifetime.nanos) m₁ mid e
  /-- After that the first reader asks again. -/
  again : ∀ key v d t m₁ mid e now, Populated (Feeds p reads) name key v d t m₁ mid e →
    Meeting.populations key m₁ mid = [] → Meeting.endTime t mid ≤ now →
    t + (lifetimeOf p v).nanos ≤ now → Ended p reads key now e
  /-- Whoever was answered got what was asked under the same key. -/
  answered : ∀ start history e, Readers (Feeds p reads) name start history e →
    ∀ i key b, e.request? i = some (.fetch key) → e.answer? i = some b →
    ∃ k m w o, (reads k).key = key ∧ ((reads k).ask m w).1.1 = some o ∧
      b.value? = some (p.remember o).1
  /-- Whoever reads gets what is or was asked under the same key, if the read is not lost. -/
  read : ∀ start history e, Readers (Feeds p reads) name start history e →
    ∀ k m w a, shelf.get m = e.cache → Meeting.endTime start history ≤ w.clock →
    ((reads k).read p m w).1.1 = some a →
    ∃ k' m' w' o, (reads k').key = (reads k).key ∧ ((reads k').ask m' w').1.1 = some o ∧
      a = (reads k).reply (p.remember o).1

variable {reads : ι → CachedRead σ shelf} {name key : String} {v : Option α} {d : Span}
  {t now start : Nat} {m₁ e : Meeting (Option α)} {mid history : List (Nat × Step (Option α))}

theorem window_of_populated (hp : p.Bounded)
    (h : Populated (Feeds p reads) name key v d t m₁ mid e)
    (hmid : ∀ x ∈ mid, x.1 < t + (lifetimeOf p v).nanos) :
    Window p reads key (fun r => r.reply v) t (t + (lifetimeOf p v).nanos) m₁ mid e := by
  obtain rfl := h.fed.lifetime_eq
  have hquiet : Meeting.populations key m₁ mid = [] :=
    h.alone fun x hx => (isLive_iff hp v t x.1).2 (hmid x hx)
  constructor
  · exact hquiet
  · intro i b k hr hb hkey
    rcases h.answer hquiet hr hb with hold | hfound
    · exact .inl hold
    · rw [hfound]
      exact .inr rfl
  · intro k m w hkey hcache hn hlimit
    have hlive := h.live? hquiet hn
    rw [if_pos ((isLive_iff hp v t w.clock).2 hlimit), ← hcache, ← hkey] at hlive
    exact served_of_live p hlive

theorem ended_of_populated (hp : p.Bounded)
    (h : Populated (Feeds p reads) name key v d t m₁ mid e)
    (hquiet : Meeting.populations key m₁ mid = []) (hn : Meeting.endTime t mid ≤ now)
    (hover : t + (lifetimeOf p v).nanos ≤ now) : Ended p reads key now e := by
  obtain rfl := h.fed.lifetime_eq
  have hdead := (isLive_eq_false_iff hp v t now).2 hover
  have hnone : e.cache.live? key now = none := by
    rw [h.live? hquiet hn, hdead]
    rfl
  constructor
  · intro s m' hs hb i hr
    exact h.again hquiet hn hdead hs hb hr
  · intro i c m' hc hr hphase hs
    exact Meeting.queued_of_reading hc hr hphase hnone (Meeting.moves_of_step? hs)
  · intro i c m' hc hr hphase hs
    exact Meeting.begun_of_owning hc hr hphase hnone (Meeting.moves_of_step? hs)
  · intro k m w hkey hcache hclock
    rw [← hcache, ← hkey, ← hclock] at hnone
    exact asks_of_dead p hnone

/-- Whatever a key shows to a reader was asked under that key. -/
theorem read_of_readers (h : Readers (Feeds p reads) name start history e) (k : ι) {m : Memory}
    {w : World σ} {a : Outcome α} (hcache : shelf.get m = e.cache)
    (hn : Meeting.endTime start history ≤ w.clock) (ha : ((reads k).read p m w).1.1 = some a) :
    ∃ k' m' w' o, (reads k').key = (reads k).key ∧ ((reads k').ask m' w').1.1 = some o ∧
      a = (reads k).reply (p.remember o).1 := by
  cases hlive : (shelf.get m).live? (reads k).key w.clock with
  | none =>
    obtain ⟨o, hasked, ho⟩ := (asks_of_dead p hlive).exists_kept ha
    exact ⟨k, _, w, o, rfl, hasked, ho⟩
  | some v =>
    rw [served_of_live p hlive] at ha
    obtain rfl := Option.some.inj ha
    rw [hcache] at hlive
    rcases (h.traced (reads k).key).known_of_live hn hlive with ⟨d, t, i, hmem, hi⟩
    rcases h.fed t i v d (reads k).key hmem hi with ⟨k', m', w', o, hkey, hasked, hremember⟩
    refine ⟨k', m', w', o, hkey, hasked, ?_⟩
    rw [hremember]

/-- Under a policy with bounded lifetimes, readers can rely on a cache. -/
theorem reliable_of_bounded (hp : p.Bounded) (name : String) (reads : ι → CachedRead σ shelf) :
    Reliable p name reads where
  ends start history e h key entry hentry := by
    refine h.ends (fun key v d hfeeds => ?_) hentry
    rw [hfeeds.lifetime_eq]
    exact Span.isZero_of_pos (lifetimeOf_pos hp v)
  success key a d t m₁ mid e h hmid := window_of_populated hp h hmid
  failure key d t m₁ mid e h hmid := window_of_populated hp h hmid
  again key v d t m₁ mid e now h hquiet hn hover := ended_of_populated hp h hquiet hn hover
  answered start history e h i key b hr hb := by
    rcases h.answered hr hb with ⟨v, d, t, j, hv, -, -, k, m, w, o, hkey, hasked, hremember⟩
    refine ⟨k, m, w, o, hkey, hasked, ?_⟩
    rw [hremember, hv]
  read start history e h k m w a hcache hn ha := read_of_readers h k hcache hn ha

end CachedRead

/-! ## Sequences of visits -/

section Sequences

variable {σ α ι : Type} {shelf : Shelf (Option α)} {s : MonitoredSystem σ}
  {reads : ι → CachedRead σ shelf} {visit : ι → Visit}

/-- What a sequence of visits comes to that begins with a read of a key that asks: `x` is what
it leaves, and `t` is when the outcome was there, which the clock can remember. -/
structure Fresh (s : MonitoredSystem σ) (reads : ι → CachedRead σ shelf) (visit : ι → Visit) :
    Prop where
  /-- During its lifetime an answer is what the next read of the key gets. -/
  success : ∀ k k' m w rest a, (reads k').key = (reads k).key →
    (shelf.get m).live? (reads k).key w.clock = none →
    Visit.Forward s (visit k :: rest) (m, w) →
    ((reads k).upstream m w).1.1 = some (.ok a) →
    let t := ((reads k).read s.policy m w).2.clock
    let x := Visit.after s (visit k :: rest) (m, w)
    t + s.policy.lifetime.nanos < Span.clockEnd →
    x.2.clock < t + s.policy.lifetime.nanos → (reads k').Served s.policy x.1 x.2 (.ok a)
  /-- During the shorter lifetime a failure is what the next read of the key gets. -/
  failure : ∀ k k' m w rest e, (reads k').key = (reads k).key →
    (shelf.get m).live? (reads k).key w.clock = none →
    Visit.Forward s (visit k :: rest) (m, w) →
    ((reads k).upstream m w).1.1 = some (.error e) →
    let t := ((reads k).read s.policy m w).2.clock
    let x := Visit.after s (visit k :: rest) (m, w)
    t + s.policy.errorLifetime.nanos < Span.clockEnd →
    x.2.clock < t + s.policy.errorLifetime.nanos →
    (reads k').Served s.policy x.1 x.2
      (.error (.unavailable ((reads k').operation ++ ": " ++ (reads k').absence)))
  /-- The first read of the key after that asks. -/
  again : ∀ k k' m w rest o, (reads k').key = (reads k).key →
    (shelf.get m).live? (reads k).key w.clock = none →
    Visit.Forward s (visit k :: rest) (m, w) →
    ((reads k).upstream m w).1.1 = some o →
    let t := ((reads k).read s.policy m w).2.clock
    let v := (s.policy.remember o).1
    let x := Visit.after s (visit k :: rest) (m, w)
    t + (CachedRead.lifetimeOf s.policy v).nanos < Span.clockEnd →
    (∀ before j more, rest = before ++ visit j :: more → (reads j).key = (reads k).key →
      (Visit.after s (visit k :: before) (m, w)).2.clock <
        t + (CachedRead.lifetimeOf s.policy v).nanos) →
    t + (CachedRead.lifetimeOf s.policy v).nanos ≤ x.2.clock →
    (reads k').Asks s.policy x.1 x.2

/-- After a read that asks, its key shows what is remembered, unless another read of the
key comes after the end. -/
theorem Frequented.shown_after (hf : Frequented s reads visit) (hp : s.policy.Bounded) {k : ι}
    {m : Memory} {w : World σ} {rest : List Visit} {o : Outcome α}
    (hdead : (shelf.get m).live? (reads k).key w.clock = none)
    (hforward : Visit.Forward s (visit k :: rest) (m, w))
    (ho : ((reads k).upstream m w).1.1 = some o)
    (hend : ((reads k).read s.policy m w).2.clock +
      (CachedRead.lifetimeOf s.policy (s.policy.remember o).1).nanos < Span.clockEnd)
    (hreads : ∀ before j more, rest = before ++ visit j :: more →
      (reads j).key = (reads k).key →
      (Visit.after s (visit k :: before) (m, w)).2.clock <
        ((reads k).read s.policy m w).2.clock +
          (CachedRead.lifetimeOf s.policy (s.policy.remember o).1).nanos) :
    Shown shelf (reads k).key (s.policy.remember o).1
      (CachedRead.lifetimeOf s.policy (s.policy.remember o).1)
      ((reads k).read s.policy m w).2.clock (Visit.after s (visit k :: rest) (m, w)).1
      (Visit.after s (visit k :: rest) (m, w)).2.clock := by
  rw [← CachedRead.remember_snd] at hend
  have hshown := shown_of_dead (s := s) k hdead ho (Span.fits_of_lt hend)
    ((reads k).read s.policy m w).2.clock
  rw [CachedRead.remember_snd] at hshown
  rw [Visit.after, hf.read]
  rw [Visit.Forward, hf.read] at hforward
  refine hf.shown_visits hshown hforward.2 ?_
  intro before j more hmore hkey
  have hclock := hreads before j more hmore hkey
  rw [Visit.after, hf.read] at hclock
  exact (CachedRead.isLive_iff hp _ _ _).2 hclock

/-- Whatever ends after the end of the visits ends after the end of some of them. -/
theorem Visit.clock_lt_of_forward {k : ι} {m : Memory} {w : World σ}
    {rest before more : List Visit} {limit : Nat} {j : ι}
    (hforward : Visit.Forward s (visit k :: rest) (m, w)) (hrest : rest = before ++ visit j :: more)
    (hlimit : (Visit.after s (visit k :: rest) (m, w)).2.clock < limit) :
    (Visit.after s (visit k :: before) (m, w)).2.clock < limit := by
  rw [hrest, ← List.cons_append] at hforward hlimit
  rw [Visit.after_append] at hlimit
  have hle := Visit.clock_after_le (Visit.forward_append.1 hforward).2
  exact Nat.lt_of_le_of_lt hle hlimit

/-- Under a policy with bounded lifetimes, reads are fresh between visits. -/
theorem Frequented.fresh_of_bounded (hf : Frequented s reads visit) (hp : s.policy.Bounded) :
    Fresh s reads visit where
  success k k' m w rest a hkey hdead hforward hok := by
    intro t x hend hlimit
    have hlive := hf.shown_after hp hdead hforward hok hend fun before j more hmore _ =>
      Visit.clock_lt_of_forward hforward hmore hlimit
    exact hlive.served hkey s.policy ((CachedRead.isLive_iff hp _ _ _).2 hlimit)
  failure k k' m w rest e hkey hdead hforward herror := by
    intro t x hend hlimit
    have hlive := hf.shown_after hp hdead hforward herror hend fun before j more hmore _ =>
      Visit.clock_lt_of_forward hforward hmore hlimit
    exact hlive.served hkey s.policy ((CachedRead.isLive_iff hp _ _ _).2 hlimit)
  again k k' m w rest o hkey hdead hforward ho := by
    intro t v x hend hreads hover
    have hshown := hf.shown_after hp hdead hforward ho hend hreads
    exact hshown.asks hkey s.policy ((CachedRead.isLive_eq_false_iff hp _ _ _).2 hover)

end Sequences

end SapMonitor
