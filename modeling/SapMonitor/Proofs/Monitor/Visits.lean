import SapMonitor.Proofs.Cache.Alone
import SapMonitor.Proofs.Monitor.CachedReads

/-!
# Visits

A monitor that does one thing after the other reads the directory, reads process lists,
sweeps its caches and lets time pass, in any order.  Each cache then goes through a run
of readers who are served one at a time, and a read that asks is a population of that
run.  So whatever holds for the runs of any readers at any time holds for the monitor.

Main results:

- `CachedRead.goesOn_read`: a read is part of a run of readers.
- `Frequented.reached`: visits are a run of readers.
- `Frequented.shown_visits`: what a key shows between visits.
-/

namespace SapMonitor

open Cache (ExpiringCache Entry Meeting Step)
open Cache.Meeting (Mirrors GoesOn Readers)
open Landscape (Policy)
open Remote (Outcome)
open Time (Span)

/-! ## Reads -/

namespace CachedRead

variable {σ α ι : Type} {shelf : Shelf (Option α)} {reads : ι → CachedRead σ shelf} {p : Policy}
  {name : String} {start : Nat} {history : List (Nat × Step (Option α))} {e : Meeting (Option α)}
  {m : Memory} {w : World σ}

/-- A read is part of a run of readers. -/
theorem goesOn_read (k : ι)
    (hm : Mirrors (Feeds p reads) name start (shelf.get m) w.clock history e)
    (hw : w.clock ≤ ((reads k).read p m w).2.clock) :
    GoesOn (Feeds p reads) name start history e (shelf.get ((reads k).read p m w).1.2)
      ((reads k).read p m w).2.clock := by
  cases hlive : (shelf.get m).live? (reads k).key w.clock with
  | some v =>
    rw [read_of_live hlive, shelf.get_set]
    exact hm.find hlive
  | none =>
    rcases read_of_dead p hlive with ⟨w', -, -, hread⟩
    rw [hread] at hw ⊢
    rw [shelf.get_set]
    cases hkept : p.kept ((reads k).upstream m w).1.1 w'.clock with
    | none => exact hm.lose hlive hw
    | some o =>
      rcases Policy.kept_eq_some.1 hkept with ⟨hasked, hfits⟩
      exact hm.populate hlive hw hfits ⟨k, _, w, o, rfl, hasked, rfl⟩

end CachedRead

/-! ## Visits -/

/-- What a monitor does to its memory. -/
inductive Visit where
  | directory (d : Deadline)
  | processes (d : Deadline) (endpoint : String)
  | sweep
  | pause (nanos : Nat)

namespace Visit

variable {σ : Type}

/-- Does it. -/
def perform (s : MonitoredSystem σ) : Visit → Watch σ Unit
  | directory d => do
    let _ ← s.directory d
  | processes d endpoint => do
    let _ ← s.processes d endpoint
  | sweep => do
    let _ ← Memory.sweep
  | pause nanos => (Work.wait nanos : Work σ Unit)

/-- The memory and the world after visits. -/
def after (s : MonitoredSystem σ) : List Visit → Memory × World σ → Memory × World σ
  | [], x => x
  | v :: rest, x => after s rest ((v.perform s x.1 x.2).1.2, (v.perform s x.1 x.2).2)

/-- No visit turns the clock back. -/
def Forward (s : MonitoredSystem σ) : List Visit → Memory × World σ → Prop
  | [], _ => True
  | v :: rest, x => x.2.clock ≤ (v.perform s x.1 x.2).2.clock ∧
      Forward s rest ((v.perform s x.1 x.2).1.2, (v.perform s x.1 x.2).2)

/-- Later visits end later. -/
theorem clock_after_le {s : MonitoredSystem σ} {visits : List Visit} {x : Memory × World σ}
    (h : Forward s visits x) : x.2.clock ≤ (after s visits x).2.clock := by
  induction visits generalizing x with
  | nil => exact Nat.le_refl _
  | cons v rest ih =>
    rcases h with ⟨hw, hrest⟩
    exact Nat.le_trans hw (ih hrest)

theorem forward_append {s : MonitoredSystem σ} {before rest : List Visit} {x : Memory × World σ} :
    Forward s (before ++ rest) x ↔ Forward s before x ∧ Forward s rest (after s before x) := by
  induction before generalizing x with
  | nil => simp only [List.nil_append, Forward, after, true_and]
  | cons v before ih => simp only [List.cons_append, Forward, ih, after, and_assoc]

theorem after_append (s : MonitoredSystem σ) (before rest : List Visit) (x : Memory × World σ) :
    after s (before ++ rest) x = after s rest (after s before x) := by
  induction before generalizing x with
  | nil => rfl
  | cons v before ih => exact ih _

end Visit

/-! ## Visits to a shelf -/

/-- A shelf that some visits read; every other visit sweeps it, or leaves it alone. -/
structure Frequented {σ α ι : Type} {shelf : Shelf (Option α)} (s : MonitoredSystem σ)
    (reads : ι → CachedRead σ shelf) (visit : ι → Visit) : Prop where
  read : ∀ k m w, (visit k).perform s m w =
    (((), ((reads k).read s.policy m w).1.2), ((reads k).read s.policy m w).2)
  other : ∀ v, (∀ k, v ≠ visit k) → ∀ m w,
    shelf.get (v.perform s m w).1.2 = shelf.get m ∨
      (v.perform s m w).2 = w ∧
        shelf.get (v.perform s m w).1.2 = ((shelf.get m).purge w.clock).2

theorem MonitoredSystem.frequented_directories {σ : Type} (s : MonitoredSystem σ) :
    Frequented s s.directoryRead .directory where
  read _ _ _ := rfl
  other v hv m w := by
    cases v with
    | directory d => exact absurd rfl (hv d)
    | processes d endpoint => exact .inl (s.directories_processes d endpoint m w)
    | sweep => exact .inr ⟨rfl, rfl⟩
    | pause nanos => exact .inl rfl

theorem MonitoredSystem.frequented_processes {σ : Type} (s : MonitoredSystem σ) :
    Frequented s s.processReads (fun k => .processes k.1 k.2) where
  read _ _ _ := rfl
  other v hv m w := by
    cases v with
    | directory d => exact .inl (s.processes_directory d m w)
    | processes d endpoint => exact absurd rfl (hv (d, endpoint))
    | sweep => exact .inr ⟨rfl, rfl⟩
    | pause nanos => exact .inl rfl

namespace Frequented

variable {σ α ι : Type} {shelf : Shelf (Option α)} {s : MonitoredSystem σ}
  {reads : ι → CachedRead σ shelf} {visit : ι → Visit} {name : String} {start : Nat}
  {history : List (Nat × Step (Option α))} {e : Meeting (Option α)}

/-- What a visit does to the shelf, a run of readers does. -/
theorem goesOn (hf : Frequented s reads visit) (v : Visit) {m : Memory} {w : World σ}
    (hm : Mirrors (CachedRead.Feeds s.policy reads) name start (shelf.get m) w.clock history e)
    (hw : w.clock ≤ (v.perform s m w).2.clock) :
    GoesOn (CachedRead.Feeds s.policy reads) name start history e
      (shelf.get (v.perform s m w).1.2) (v.perform s m w).2.clock := by
  by_cases hv : ∃ k, v = visit k
  · rcases hv with ⟨k, rfl⟩
    rw [hf.read] at hw ⊢
    exact CachedRead.goesOn_read k hm hw
  · rcases hf.other v (fun k hk => hv ⟨k, hk⟩) m w with hsame | ⟨hworld, hpurge⟩
    · rw [hsame]
      exact hm.later hw
    · rw [hworld, hpurge]
      exact hm.purge

/-- What visits do to the shelf, a run of readers does. -/
theorem goesOn_visits (hf : Frequented s reads visit) {visits : List Visit}
    {x : Memory × World σ}
    (hm : Mirrors (CachedRead.Feeds s.policy reads) name start (shelf.get x.1) x.2.clock history e)
    (hforward : Visit.Forward s visits x) :
    GoesOn (CachedRead.Feeds s.policy reads) name start history e
      (shelf.get (Visit.after s visits x).1) (Visit.after s visits x).2.clock := by
  induction visits generalizing x history e with
  | nil => exact hm.later (Nat.le_refl _)
  | cons v rest ih =>
    rcases hforward with ⟨hw, hrest⟩
    rcases hf.goesOn v hm hw with ⟨more, e', hrun, hm'⟩
    exact (ih hm' hrest).trans hrun

/-- Visits to a shelf without entries are a run of readers. -/
theorem reached (hf : Frequented s reads visit) {visits : List Visit} {x : Memory × World σ}
    (hempty : shelf.get x.1 = .empty name) (hforward : Visit.Forward s visits x) :
    ∃ history e, Readers (CachedRead.Feeds s.policy reads) name x.2.clock history e ∧
      shelf.get (Visit.after s visits x).1 = e.cache ∧
      Meeting.endTime x.2.clock history ≤ (Visit.after s visits x).2.clock := by
  have hm : Mirrors (CachedRead.Feeds s.policy reads) name x.2.clock (shelf.get x.1) x.2.clock []
      { cache := .empty name } := by
    rw [hempty]
    exact .opened _ name _
  rcases hf.goesOn_visits hm hforward with ⟨more, e, -, hm'⟩
  exact ⟨[] ++ more, e, hm'.readers, hm'.cache.symm, hm'.time⟩

end Frequented

/-! ## What a key shows between visits -/

/-- A key shows what was remembered at `t`, from now on until it ends. -/
def Shown {α : Type} (shelf : Shelf (Option α)) (key : String) (v : Option α) (d : Span) (t : Nat)
    (m : Memory) (now : Nat) : Prop :=
  ∀ n, now ≤ n →
    (shelf.get m).live? key n = if (Entry.ofPopulation v d t).isLive n then some v else none

section Shown

variable {σ α ι : Type} {shelf : Shelf (Option α)} {s : MonitoredSystem σ}
  {reads : ι → CachedRead σ shelf} {visit : ι → Visit} {key : String} {v : Option α} {d : Span}
  {t : Nat} {m : Memory} {w : World σ}

/-- A read that asks is shown, if the clock can tell how long. -/
theorem shown_of_dead (k : ι) (h : (shelf.get m).live? (reads k).key w.clock = none)
    {o : Outcome α} (ho : ((reads k).upstream m w).1.1 = some o)
    (hfits : (s.policy.remember o).2.fits ((reads k).read s.policy m w).2.clock = true)
    (now : Nat) :
    Shown shelf (reads k).key (s.policy.remember o).1 (s.policy.remember o).2
      ((reads k).read s.policy m w).2.clock ((reads k).read s.policy m w).1.2 now := by
  intro n _
  exact CachedRead.live?_read_of_dead h ho hfits n

/-- A key that shows something live is served. -/
theorem Shown.served (h : Shown shelf key v d t m w.clock) {r : CachedRead σ shelf}
    (hkey : r.key = key) (p : Policy)
    (hlive : (Entry.ofPopulation v d t).isLive w.clock = true) : r.Served p m w (r.reply v) := by
  subst hkey
  have hshown := h w.clock (Nat.le_refl _)
  rw [if_pos hlive] at hshown
  exact CachedRead.served_of_live p hshown

/-- Whoever reads a key whose value has ended asks. -/
theorem Shown.asks (h : Shown shelf key v d t m w.clock) {r : CachedRead σ shelf}
    (hkey : r.key = key) (p : Policy)
    (hdead : (Entry.ofPopulation v d t).isLive w.clock = false) : r.Asks p m w := by
  subst hkey
  have hshown := h w.clock (Nat.le_refl _)
  rw [hdead] at hshown
  exact CachedRead.asks_of_dead p hshown

/-- A visit leaves what a key shows, unless it reads the key after the end. -/
theorem Frequented.shown_visit (hf : Frequented s reads visit) {x : Visit}
    (h : Shown shelf key v d t m w.clock)
    (hx : ∀ k, x = visit k → (reads k).key = key →
      (Entry.ofPopulation v d t).isLive w.clock = true)
    (hw : w.clock ≤ (x.perform s m w).2.clock) :
    Shown shelf key v d t (x.perform s m w).1.2 (x.perform s m w).2.clock := by
  intro n hn
  have hbefore := h n (Nat.le_trans hw hn)
  by_cases hvisit : ∃ k, x = visit k
  · rcases hvisit with ⟨k, rfl⟩
    rw [hf.read]
    by_cases hkey : (reads k).key = key
    · have hserved := h.served hkey s.policy (hx k rfl hkey)
      rw [hserved, shelf.get_set]
      exact hbefore
    · rw [CachedRead.live?_read_of_ne (Ne.symm hkey)]
      exact hbefore
  · rcases hf.other x (fun k hk => hvisit ⟨k, hk⟩) m w with hsame | ⟨hworld, hpurge⟩
    · rw [hsame]
      exact hbefore
    · rw [hworld] at hn
      rw [hpurge, ExpiringCache.live?_purge _ _ hn]
      exact hbefore

/-- Visits leave what a key shows, unless one of them reads the key after the end. -/
theorem Frequented.shown_visits (hf : Frequented s reads visit) {visits : List Visit}
    {x : Memory × World σ} (h : Shown shelf key v d t x.1 x.2.clock)
    (hforward : Visit.Forward s visits x)
    (hreads : ∀ before k rest, visits = before ++ visit k :: rest → (reads k).key = key →
      (Entry.ofPopulation v d t).isLive (Visit.after s before x).2.clock = true) :
    Shown shelf key v d t (Visit.after s visits x).1 (Visit.after s visits x).2.clock := by
  induction visits generalizing x with
  | nil => exact h
  | cons first rest ih =>
    rcases hforward with ⟨hw, hrest⟩
    have hfirst := hf.shown_visit h
      (fun k hk hkey => hreads [] k rest (by rw [hk, List.nil_append]) hkey) hw
    refine ih hfirst hrest ?_
    intro before k more hmore hkey
    refine hreads (first :: before) k more ?_ hkey
    rw [hmore, List.cons_append]

end Shown

end SapMonitor
