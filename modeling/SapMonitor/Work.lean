/-!
# Work

Everything that talks to the web service takes time and may leave notes in the
journal.  Work is a computation over a clock, a journal and the state of
whoever is on the other side, the peer.

Main results:

- `now_run`: asking for the time changes nothing.
-/

namespace SapMonitor

/-- How serious a note is. -/
inductive Severity where
  | warning
  | error
  deriving DecidableEq

/-- The name of a severity. -/
def Severity.name : Severity → String
  | warning => "WARN"
  | error => "ERROR"

/-- A line of the journal. -/
structure Note where
  severity : Severity
  text : String
  deriving DecidableEq

/-- The world that work is done in: the clock in nanoseconds, the journal with
the latest note first, and the state of the peer. -/
structure World (σ : Type) where
  clock : Nat
  journal : List Note
  peer : σ

/-- A computation that takes time, leaves notes and talks to a peer. -/
abbrev Work (σ : Type) := StateM (World σ)

namespace Work

variable {σ : Type}

/-- The reading of the clock. -/
def now : Work σ Nat :=
  fun w => (w.clock, w)

/-- Lets time pass. -/
def wait (nanos : Nat) : Work σ Unit :=
  fun w => ((), { w with clock := w.clock + nanos })

/-- Sets the clock; tasks that run side by side begin at their own times. -/
def setClock (clock : Nat) : Work σ Unit :=
  fun w => ((), { w with clock := clock })

/-- Leaves a note. -/
def note (n : Note) : Work σ Unit :=
  fun w => ((), { w with journal := n :: w.journal })

/-- Leaves a warning. -/
def warn (text : String) : Work σ Unit :=
  note ⟨.warning, text⟩

/-- Leaves a note on an error. -/
def complain (text : String) : Work σ Unit :=
  note ⟨.error, text⟩

/-- Leaves several notes in order. -/
def noteAll : List Note → Work σ Unit
  | [] => pure ()
  | n :: rest => do
    note n
    noteAll rest

/-- Asks the peer. -/
def ask {α : Type} (f : σ → α × σ) : Work σ α :=
  fun w => ((f w.peer).1, { w with peer := (f w.peer).2 })

@[simp] theorem now_run (w : World σ) : (now : Work σ Nat) w = (w.clock, w) :=
  rfl

end Work

end SapMonitor
