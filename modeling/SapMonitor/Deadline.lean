import SapMonitor.Time.Span
import SapMonitor.Remote.Error
import SapMonitor.Work

/-!
# Deadlines

All calls that one scrape makes share a deadline.  A call that has to wait is
given up at the deadline; one that ends exactly then is in time, and one that
need not wait is never looked at.
-/

namespace SapMonitor

open Time (Span)
open Remote (RemoteError)

/-- The moment by which the calls of a scrape have to end. -/
structure Deadline where
  moment : Nat

namespace Deadline

/-- The deadline of a scrape that begins now. -/
def after (now : Nat) (timeout : Span) : Deadline :=
  ⟨now + timeout.nanos⟩

/-- What is left until the deadline. -/
def remaining (d : Deadline) (now : Nat) : Span :=
  ⟨d.moment - now⟩

/-- Whether nothing is left. -/
def hasPassed (d : Deadline) (now : Nat) : Bool :=
  (d.remaining now).isZero

/-- The cause of a call that was given up. -/
def exceeded (operation : String) : RemoteError :=
  .deadline (operation ++ " did not complete before the scrape deadline")

variable {σ α : Type}

/-- Waits before a call and then makes it, unless the deadline comes first. -/
def keep (d : Deadline) (operation : String) (delay : Span)
    (call : Work σ (Except RemoteError α)) : Work σ (Except RemoteError α) := do
  let start ← Work.now
  if delay.isZero || start + delay.nanos ≤ d.moment then
    Work.wait delay.nanos
    call
  else
    Work.setClock (max start d.moment)
    return .error (exceeded operation)

end Deadline

end SapMonitor
