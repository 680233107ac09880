import Mathlib.Algebra.Order.Group.Multiset
import SapMonitor.Proofs.LogStore.Lines

/-!
# Batches in the traffic of a client

A batch that was taken is with the call that has taken it until that call pushes all that it
holds, which it does once.

Main results:

- `Shipped.put`: what a call that takes batches or pushes them keeps of the account.
- `Traffic.shipped_step`: what an act keeps.
-/

namespace SapMonitor.LogStore

open Traffic (Happens)

variable {s : ClientSettings}

/-! ## Batches and pushes -/

/-- The pushes of a call. -/
def pushesOf (pushes : List (Nat × List Stream)) (i : Nat) : List (List Stream) :=
  (pushes.filter fun p => p.1 = i).map Prod.snd

/-- What a call has pushed, by how far it has come: a send pushes one batch of full size or
none, and a flush pushes everything it has taken at once, or nothing if that has no
lines. -/
def Call.HasPushed (s : ClientSettings) : Call → List (List Stream) → Prop
  | sending _, pushes => pushes = []
  | holding batch, pushes => pushes = [] ∧ batch.values.length = max 1 s.batch
  | pushing batch, pushes => pushes = [[batch]] ∧ batch.values.length = max 1 s.batch
  | sent outcome, pushes => pushes = [] ∧ outcome = .ok () ∨
      ∃ batch, pushes = [[batch]] ∧ batch.values.length = max 1 s.batch
  | collecting _, pushes => pushes = []
  | pruning _, pushes => pushes = []
  | pushingAll batches, pushes => pushes = [batches] ∧ batchLines batches ≠ 0
  | flushed (.ok n), pushes => n = 0 ∧ pushes = [] ∨
      n ≠ 0 ∧ ∃ batches, pushes = [batches] ∧ batchLines batches = n
  | flushed (.error _), pushes => ∃ batches, pushes = [batches] ∧ batchLines batches ≠ 0

/-- What was taken was pushed, or is still with the call that has taken it. -/
structure Shipped (s : ClientSettings) (taken : List Stream) (pushes : List (Nat × List Stream))
    (calls : List Call) : Prop where
  filled : ∀ batch ∈ taken, batch.values ≠ []
  once : taken.Perm (pushes.flatMap Prod.snd ++ calls.flatMap Call.held)
  known : ∀ p ∈ pushes, p.1 < calls.length
  pushed : ∀ (i : Nat) (c : Call), calls[i]? = some c → c.HasPushed s (pushesOf pushes i)

/-- Replacing a call changes what is held by what the two calls hold. -/
theorem held_set {calls : List Call} {i : Nat} {c : Call} (hc : calls[i]? = some c) (c' : Call) :
    (((calls.set i c').flatMap Call.held : List Stream) : Multiset Stream) + c.held =
      (calls.flatMap Call.held : List Stream) + c'.held := by
  induction calls generalizing i with
  | nil => cases hc
  | cons d calls ih =>
    cases i with
    | zero =>
      obtain rfl : d = c := by simpa using hc
      simp only [List.set_cons_zero, List.flatMap_cons, ← Multiset.coe_add]
      ac_rfl
    | succ i =>
      have hrest := ih (by simpa using hc)
      simp only [List.set_cons_succ, List.flatMap_cons, ← Multiset.coe_add]
      rw [add_assoc, hrest, add_assoc]

/-- The pushes of a call, with some more pushes of one of the calls. -/
theorem pushesOf_append (pushes : List (Nat × List Stream)) (i j : Nat)
    (more : List (List Stream)) : pushesOf (pushes ++ more.map fun bs => (i, bs)) j =
      if i = j then pushesOf pushes j ++ more else pushesOf pushes j := by
  have hmore : pushesOf (more.map fun bs => (i, bs)) j = if i = j then more else [] := by
    by_cases hij : i = j <;> simp [pushesOf, hij, List.filter_map, Function.comp_def]
  have happend : pushesOf (pushes ++ more.map fun bs => (i, bs)) j =
      pushesOf pushes j ++ pushesOf (more.map fun bs => (i, bs)) j := by
    simp [pushesOf]
  rw [happend, hmore]
  by_cases hij : i = j
  · rw [if_pos hij, if_pos hij]
  · rw [if_neg hij, if_neg hij, List.append_nil]

namespace Shipped

variable {taken : List Stream} {pushes : List (Nat × List Stream)} {calls : List Call}

/-- A call that takes batches or pushes them keeps the account. -/
theorem put (h : Shipped s taken pushes calls) {i : Nat} {c c' : Call}
    (hc : calls[i]? = some c) {new : List Stream} {more : List (List Stream)}
    (hfilled : ∀ batch ∈ new, batch.values ≠ [])
    (hheld : ((c.held : Multiset Stream) + new) = (more.flatten : List Stream) + c'.held)
    (hpushed : ∀ ps, c.HasPushed s ps → c'.HasPushed s (ps ++ more)) :
    Shipped s (taken ++ new) (pushes ++ more.map fun bs => (i, bs)) (calls.set i c') where
  filled batch hbatch := by
    rcases List.mem_append.1 hbatch with hold | hnew
    · exact h.filled batch hold
    · exact hfilled batch hnew
  once := by
    have honce : (taken : Multiset Stream) =
        (pushes.flatMap Prod.snd : List Stream) + (calls.flatMap Call.held : List Stream) := by
      rw [Multiset.coe_add, Multiset.coe_eq_coe]
      exact h.once
    have hmore : (more.map fun bs => (i, bs)).flatMap Prod.snd = more.flatten := by
      rw [List.flatMap_map, List.flatMap_id']
    rw [← Multiset.coe_eq_coe, List.flatMap_append, hmore]
    simp only [← Multiset.coe_add]
    have hset := held_set hc c'
    -- Both sides are compared with what the call held added.
    apply add_right_cancel (b := (c.held : Multiset Stream))
    calc (taken : Multiset Stream) + new + c.held
        = (pushes.flatMap Prod.snd : List Stream) + (calls.flatMap Call.held : List Stream) +
            (c.held + new) := by rw [honce]; ac_rfl
      _ = (pushes.flatMap Prod.snd : List Stream) + (more.flatten : List Stream) +
            ((calls.flatMap Call.held : List Stream) + c'.held) := by rw [hheld]; ac_rfl
      _ = (pushes.flatMap Prod.snd : List Stream) + (more.flatten : List Stream) +
            ((calls.set i c').flatMap Call.held : List Stream) + c.held := by
          rw [← hset]
          ac_rfl
  known p hp := by
    rw [List.length_set]
    rcases List.mem_append.1 hp with hold | hnew
    · exact h.known p hold
    · obtain ⟨bs, -, rfl⟩ := List.mem_map.1 hnew
      exact (List.getElem?_eq_some_iff.1 hc).1
  pushed j d hd := by
    rw [pushesOf_append]
    by_cases hij : i = j
    · subst hij
      rw [List.getElem?_set_self (List.getElem?_eq_some_iff.1 hc).1] at hd
      cases hd
      rw [if_pos rfl]
      exact hpushed _ (h.pushed i c hc)
    · rw [List.getElem?_set_ne hij] at hd
      rw [if_neg hij]
      exact h.pushed j d hd

/-- A call that is made has taken nothing and pushed nothing. -/
theorem come (h : Shipped s taken pushes calls) {c : Call} (hheld : c.held = [])
    (hpushed : c.HasPushed s []) : Shipped s taken pushes (calls ++ [c]) where
  filled := h.filled
  once := by
    rw [List.flatMap_append, List.flatMap_singleton, hheld, List.append_nil]
    exact h.once
  known p hp := by
    rw [List.length_append, List.length_singleton]
    exact Nat.lt_succ_of_lt (h.known p hp)
  pushed i d hd := by
    rw [List.getElem?_append] at hd
    split at hd
    · exact h.pushed i d hd
    · rename_i hi
      have hnone : pushesOf pushes i = [] := by
        rw [pushesOf, List.map_eq_nil_iff, List.filter_eq_nil_iff]
        intro p hp heq
        have hlt := h.known p hp
        rw [of_decide_eq_true heq] at hlt
        omega
      rw [hnone]
      rw [List.getElem?_singleton] at hd
      split at hd
      · cases hd
        exact hpushed
      · cases hd

/-- A call that goes on with what it holds keeps the account. -/
theorem move (h : Shipped s taken pushes calls) {i : Nat} {c c' : Call} (hc : calls[i]? = some c)
    (hheld : c.held = c'.held) (hpushed : ∀ ps, c.HasPushed s ps → c'.HasPushed s ps) :
    Shipped s taken pushes (calls.set i c') := by
  have hput : Shipped s (taken ++ []) (pushes ++ [].map fun bs => (i, bs)) (calls.set i c') :=
    h.put hc (by simp) (by simp [hheld]) fun ps hps => by
      rw [List.append_nil]
      exact hpushed ps hps
  simpa using hput

/-- A call that takes a batch holds one more. -/
theorem take (h : Shipped s taken pushes calls) {i : Nat} {c c' : Call} (hc : calls[i]? = some c)
    {batch : Stream} (hbatch : batch.values ≠ []) (hheld : c.held ++ [batch] = c'.held)
    (hpushed : ∀ ps, c.HasPushed s ps → c'.HasPushed s ps) :
    Shipped s (taken ++ [batch]) pushes (calls.set i c') := by
  have hput : Shipped s (taken ++ [batch]) (pushes ++ [].map fun bs => (i, bs))
      (calls.set i c') :=
    h.put hc (by simpa using hbatch) (by rw [← hheld, ← Multiset.coe_add]; simp) fun ps hps => by
      rw [List.append_nil]
      exact hpushed ps hps
  simpa using hput

/-- A call that pushes all that it holds holds nothing. -/
theorem ship (h : Shipped s taken pushes calls) {i : Nat} {c c' : Call} (hc : calls[i]? = some c)
    (hheld : c'.held = []) (hpushed : ∀ ps, c.HasPushed s ps → c'.HasPushed s (ps ++ [c.held])) :
    Shipped s taken (pushes ++ [(i, c.held)]) (calls.set i c') := by
  have hput : Shipped s (taken ++ []) (pushes ++ [c.held].map fun bs => (i, bs))
      (calls.set i c') :=
    h.put hc (by simp) (by simp [hheld]) hpushed
  simpa using hput

/-- What a call holds has been taken, and has lines. -/
theorem filled_of_held (h : Shipped s taken pushes calls) {i : Nat} {c : Call}
    (hc : calls[i]? = some c) : ∀ batch ∈ c.held, batch.values ≠ [] := by
  intro batch hbatch
  apply h.filled
  rw [h.once.mem_iff, List.mem_append, List.mem_flatMap, List.mem_flatMap]
  exact .inr ⟨c, List.mem_of_getElem? hc, hbatch⟩

end Shipped

/-- Batches that have lines, but none together, are no batches. -/
theorem eq_nil_of_batchLines {batches : List Stream} (h : ∀ batch ∈ batches, batch.values ≠ [])
    (hn : batchLines batches = 0) : batches = [] := by
  cases batches with
  | nil => rfl
  | cons batch batches =>
    have hpos := List.length_pos_iff.2 (h batch (by simp))
    rw [batchLines] at hn
    omega

namespace Traffic

variable {t t' : Traffic}

/-- What an act keeps of the batches and pushes. -/
theorem shipped_step {a : Act} (hstep : Happens s t a t') (hfiled : t.Filed s)
    (h : Shipped s t.taken t.pushes t.calls) : Shipped s t'.taken t'.pushes t'.calls := by
  cases hstep with
  | send line => exact h.come rfl rfl
  | flush => exact h.come rfl rfl
  | keep hc he => exact h.move hc rfl fun ps hps => .inl ⟨hps, rfl⟩
  | fill hc he =>
    have hline := hfiled.plain _ (List.mem_of_getElem? hc)
    obtain ⟨-, hfull⟩ := hfiled.filed.fill hline he
    refine h.take hc ?_ rfl fun ps hps => ⟨hps, hfull⟩
    rw [← List.length_pos_iff, hfull]
    omega
  | collect hc ht => exact h.take hc (takeLines_eq_some ht).1 rfl fun ps hps => hps
  | turn hc => exact h.move hc rfl fun ps hps => hps
  | prune key hc => exact h
  | push hc =>
    refine h.ship hc rfl fun ps hps => ?_
    rw [hps.1]
    exact ⟨rfl, hps.2⟩
  | @pushNothing i batches hc hn =>
    have hnone : batches = [] := eq_nil_of_batchLines (h.filled_of_held hc) hn
    exact h.move hc hnone fun ps hps => .inl ⟨rfl, hps⟩
  | pushAll hc hn =>
    refine h.ship hc rfl fun ps hps => ?_
    have hnone : ps = [] := hps
    rw [hnone]
    exact ⟨rfl, hn⟩
  | answer outcome hc => exact h.move hc rfl fun ps hps => .inr ⟨_, hps⟩
  | answerAll outcome hc =>
    refine h.move hc rfl fun ps hps => ?_
    cases outcome with
    | ok u => exact .inr ⟨hps.2, _, hps.1, rfl⟩
    | error e => exact ⟨_, hps⟩

end Traffic

end SapMonitor.LogStore
