/-!
# The system id

All metrics carry the id of the system.  It is set in the settings, or the
first instance that reports one writes it; what has been written stays.

Main results:

- `SystemId.fill_of_known`: a known id stays.
-/

namespace SapMonitor.Landscape

/-- The id of the system, if it is known. -/
structure SystemId where
  text? : Option String := none
  deriving DecidableEq

namespace SystemId

/-- The id from the settings; an empty one is not known. -/
def ofSetting (text : String) : SystemId :=
  ⟨if text.isEmpty then none else some text⟩

/-- Fills an id that is not known, and tells whether it did. -/
def fill (s : SystemId) (text : String) : Bool × SystemId :=
  match s.text? with
  | some _ => (false, s)
  | none => if text.isEmpty then (false, s) else (true, ⟨some text⟩)

/-- A known id stays. -/
@[simp] theorem fill_of_known (id text : String) :
    (SystemId.mk (some id)).fill text = (false, ⟨some id⟩) :=
  rfl

/-- The id in labels: empty as long as it is not known. -/
def label (s : SystemId) : String :=
  s.text?.getD ""

end SystemId

end SapMonitor.Landscape
