/-!
# Steps that can fail

A step that can fail gives a fault or a result.  Steps one after the other give a result if each
of them does.

Main results:

- `bind_eq_ok_iff`: the result of a step after another.
- `map_eq_ok_iff`: a result that is changed.
-/

namespace SapMonitor

variable {ε α β : Type}

/-- A step after another succeeds if both do. -/
theorem bind_eq_ok_iff {x : Except ε α} {f : α → Except ε β} {b : β} :
    (x >>= f) = .ok b ↔ ∃ a, x = .ok a ∧ f a = .ok b := by
  cases x <;> simp [bind, Except.bind]

/-- A step after another succeeds at all if both do. -/
theorem exists_bind_iff {x : Except ε α} {f : α → Except ε β} :
    (∃ b, (x >>= f) = .ok b) ↔ ∃ a, x = .ok a ∧ ∃ b, f a = .ok b := by
  simp only [bind_eq_ok_iff, ← exists_and_left]
  exact exists_comm

theorem exists_pure_iff {a : α} : (∃ b, (pure a : Except ε α) = .ok b) ↔ True :=
  iff_true_intro ⟨a, rfl⟩

theorem map_eq_ok_iff {x : Except ε α} {f : α → β} {b : β} :
    x.map f = .ok b ↔ ∃ a, x = .ok a ∧ f a = b := by
  cases x <;> simp [Except.map]

theorem pure_eq_ok_iff {a b : α} : (pure a : Except ε α) = .ok b ↔ a = b :=
  Except.ok.injEq a b |>.to_iff

end SapMonitor
