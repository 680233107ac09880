import SapMonitor.Remote.Error

/-!
# State colours

The service shows the health of instances, processes, alerts and lock tables by
a colour.  Each colour has a spelling in answers, a number in metrics and a
level in log lines.

Main results:

- `StateColor.read?_name`: every colour is read back from its spelling.
-/

namespace SapMonitor.Remote

/-- The health of something the service watches. -/
inductive StateColor where
  | gray
  | green
  | yellow
  | red
  deriving DecidableEq

namespace StateColor

/-- All colours, from unknown to worst. -/
def all : List StateColor := [gray, green, yellow, red]

/-- The spelling in answers. -/
def name : StateColor → String
  | gray => "SAPControl-GRAY"
  | green => "SAPControl-GREEN"
  | yellow => "SAPControl-YELLOW"
  | red => "SAPControl-RED"

/-- The number in metrics. -/
def code : StateColor → Nat
  | gray => 1
  | green => 2
  | yellow => 3
  | red => 4

/-- The number in metrics as a sample value. -/
def value (c : StateColor) : Float :=
  Float.ofNat c.code

/-- The level in log lines. -/
def level : StateColor → String
  | gray => "unknown"
  | green => "info"
  | yellow => "warning"
  | red => "error"

/-- The short name, which ends the names of the per-colour metrics. -/
def label : StateColor → String
  | gray => "gray"
  | green => "green"
  | yellow => "yellow"
  | red => "red"

/-- The colour with the spelling. -/
def read? (s : String) : Option StateColor :=
  all.find? fun c => c.name == s

/-- Every colour is read back from its spelling. -/
@[simp] theorem read?_name (c : StateColor) : read? c.name = some c := by
  cases c <;> decide

/-- A colour is read from its own spelling only. -/
theorem read?_eq_some_iff {s : String} {c : StateColor} : read? s = some c ↔ s = c.name := by
  constructor
  · intro h
    have hname := List.find?_some h
    exact (eq_of_beq hname).symm
  · intro h
    rw [h, read?_name]

theorem read?_eq_none_iff {s : String} : read? s = none ↔ ∀ c : StateColor, s ≠ c.name := by
  constructor
  · intro h c hc
    rw [hc, read?_name] at h
    cases h
  · intro h
    cases hread : read? s with
    | none => rfl
    | some c => exact absurd (read?_eq_some_iff.1 hread) (h c)

/-- The colour with the spelling, or the cause. -/
def read (s : String) : Except RemoteError StateColor :=
  match read? s with
  | some c => .ok c
  | none => .error (.stateColor s)

/-- The level of log lines whose colour is not known. -/
def fallbackLevel : String := "alert"

end StateColor

/-- The sample value of a colour's spelling; a text that is no colour is worth
zero. -/
def stateValue (s : String) : Float :=
  match StateColor.read? s with
  | some c => c.value
  | none => 0

end SapMonitor.Remote
