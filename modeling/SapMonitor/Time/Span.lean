/-!
# Spans of time

A span is a whole number of nanoseconds.  Settings, deadlines and entries of
the caches use it.

A clock counts nanoseconds, too, but does not count forever: a span that begins
late enough has no end that the clock can tell.

Main results:

- `Span.isZero_iff`: a span is zero exactly when it holds no nanosecond.
- `Span.fits_of_lt`: a span that ends before the clock does.
-/

namespace SapMonitor.Time

/-- A span of time. -/
structure Span where
  nanos : Nat
  deriving DecidableEq

namespace Span

/-- Nanoseconds in a second. -/
def nanosPerSecond : Nat := 1000000000

/-- The empty span. -/
def zero : Span := ⟨0⟩

/-- A span of whole seconds. -/
def ofSeconds (n : Nat) : Span := ⟨n * nanosPerSecond⟩

/-- A span of whole milliseconds. -/
def ofMillis (n : Nat) : Span := ⟨n * 1000000⟩

/-- The whole seconds of a span. -/
def seconds (s : Span) : Nat := s.nanos / nanosPerSecond

/-- The nanoseconds beyond the whole seconds. -/
def fraction (s : Span) : Nat := s.nanos % nanosPerSecond

/-- The whole milliseconds of a span. -/
def millis (s : Span) : Nat := s.nanos / 1000000

/-- Whether the span is empty. -/
def isZero (s : Span) : Bool := s.nanos == 0

/-- A span is zero exactly when it holds no nanosecond. -/
@[simp] theorem isZero_iff (s : Span) : s.isZero = true ↔ s = zero := by
  cases s
  simp [isZero, zero]

/-- A span that takes some time is not empty. -/
theorem isZero_of_pos {s : Span} (h : 0 < s.nanos) : s.isZero = false := by
  rw [isZero, beq_eq_false_iff_ne]
  omega

/-- The span, or the other one if it is empty. -/
def orElse (s other : Span) : Span :=
  if s.isZero then other else s

theorem orElse_of_pos {s : Span} (h : 0 < s.nanos) (other : Span) : s.orElse other = s := by
  rw [orElse, isZero_of_pos h]
  rfl

/-! ## The end of the clock -/

/-- What a clock cannot count to any more: its seconds are a number of 64 bits with a
sign. -/
def clockEnd : Nat := Nat.pow 2 63 * nanosPerSecond

/-- Whether a span that begins at a time has an end that the clock can tell, if it has an
end at all. -/
def fits (s : Span) (now : Nat) : Bool :=
  s.isZero || now + s.nanos < clockEnd

theorem fits_of_lt {s : Span} {now : Nat} (h : now + s.nanos < clockEnd) : s.fits now = true := by
  rw [fits, decide_eq_true h, Bool.or_true]

end Span

end SapMonitor.Time
