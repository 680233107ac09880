import SapMonitor.Text.Strip
import SapMonitor.Work

/-!
# The level of the journal

The level says which notes are shown.  The environment may hold a filter of its
own, which then wins over the settings.

Main results:

- `Level.read_name`: every level is read back from its name.
-/

namespace SapMonitor

/-- The levels of the journal, from silence to everything. -/
inductive Level where
  | off
  | error
  | warning
  | info
  | debug
  | trace
  deriving DecidableEq

namespace Level

/-- The name of a level in settings. -/
def name : Level → String
  | off => "off"
  | error => "error"
  | warning => "warn"
  | info => "info"
  | debug => "debug"
  | trace => "trace"

/-- The level that a text in letters of either case means; any other text means
the level of information. -/
def read (text : String) : Level :=
  match Text.lower text with
  | "trace" => trace
  | "debug" => debug
  | "warn" => warning
  | "warning" => warning
  | "error" => error
  | "off" => off
  | _ => info

/-- Every level is read back from its name. -/
@[simp] theorem read_name (l : Level) : read l.name = l := by
  cases l <;> decide

/-- The level that settings ask for, unless the filter of the environment
wins. -/
def configured (text : String) (filter : Option String) : Option Level :=
  match filter with
  | some f => if (Text.trim f).isEmpty then some (read text) else none
  | none => some (read text)

/-- Whether notes of a severity are shown. -/
def shows : Level → Severity → Bool
  | off, _ => false
  | error, s => s = .error
  | _, _ => true

end Level

end SapMonitor
