import SapMonitor.Decimal.Shortest

/-!
# Metric families and their text

A family holds the samples of one metric.  Its text begins with two comment
lines and has one line for each sample; families are shown with their samples
in ascending order of labels, their lines in ascending order of text.

Main results:

- `refusal?_eq_none_iff`: only families without a name or without samples have no text.
-/

namespace SapMonitor.Series

/-- The two kinds of metrics. -/
inductive Kind where
  | gauge
  | counter
  deriving DecidableEq

/-- The name of a kind in the text format. -/
def Kind.name : Kind → String
  | gauge => "gauge"
  | counter => "counter"

/-- A sample: its labels in ascending order of names, and its value. -/
structure Point where
  labels : List (String × String)
  value : Float

/-- The samples of one metric. -/
structure Family where
  name : String
  help : String
  kind : Kind
  points : List Point

/-- The escapes of help texts. -/
def escapeHelp (s : String) : String :=
  String.ofList (s.toList.flatMap fun c =>
    if c = '\\' then ['\\', '\\'] else if c = '\n' then ['\\', 'n'] else [c])

/-- The escapes of label values. -/
def escapeValue (s : String) : String :=
  String.ofList (s.toList.flatMap fun c =>
    if c = '\\' then ['\\', '\\'] else if c = '\n' then ['\\', 'n']
    else if c = '"' then ['\\', '"'] else [c])

/-- The labels of a sample between braces, with commas between them. -/
def labelText : List (String × String) → String
  | [] => ""
  | [(name, value)] => name ++ "=\"" ++ escapeValue value ++ "\""
  | (name, value) :: rest =>
    name ++ "=\"" ++ escapeValue value ++ "\"," ++ labelText rest

/-- The line of a sample. -/
def Point.line (p : Point) (name : String) : String :=
  (if p.labels.isEmpty then name else name ++ "\x7b" ++ labelText p.labels ++ "\x7d")
    ++ " " ++ Decimal.display p.value

namespace Family

/-- The lines of a family: help, kind and the samples in ascending order. -/
def lines (f : Family) : List String :=
  ("# HELP " ++ f.name ++ " " ++ escapeHelp f.help) ::
    ("# TYPE " ++ f.name ++ " " ++ f.kind.name) ::
    (f.points.map fun p => p.line f.name).mergeSort fun a b => a ≤ b

/-- Why a family has no text, if so. -/
def refusal? (f : Family) : Option String :=
  if f.points.isEmpty then some ("Error: MetricFamily has no metrics: " ++ f.name)
  else if f.name.isEmpty then some ("Error: MetricFamily has no name: " ++ f.help)
  else none

theorem refusal?_eq_none_iff (f : Family) : f.refusal? = none ↔ f.points ≠ [] ∧ f.name ≠ "" := by
  simp only [refusal?, List.isEmpty_iff, String.isEmpty_iff]
  by_cases hpoints : f.points = []
  · simp [hpoints]
  · by_cases hname : f.name = "" <;> simp [hpoints, hname]

end Family

/-- The lines of several families one after the other. -/
def textLines (families : List Family) : List String :=
  families.flatMap Family.lines

/-- Why families have no text, if so: the first one without a text decides. -/
def refusal? (families : List Family) : Option String :=
  families.findSome? Family.refusal?

/-- Only families without a name or without samples have no text. -/
theorem refusal?_eq_none_iff (families : List Family) :
    refusal? families = none ↔ ∀ f ∈ families, f.points ≠ [] ∧ f.name ≠ "" := by
  simp only [refusal?, List.findSome?_eq_none_iff, Family.refusal?_eq_none_iff]

end SapMonitor.Series
