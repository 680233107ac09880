/-!
# Descriptors of metrics

A collector describes its metrics before it samples them: the name, the help
text and the names of the labels.  A series can be created only for a
descriptor that the text format allows.

Main results:

- `Catalog.find?_insert_self` and `Catalog.find?_insert_of_ne`: a descriptor is
  found under its name, the latest one counting.
- `seriesName_of_parts`: the full name when no part is empty.
-/

namespace SapMonitor.Series

/-! ## Names of the text format -/

/-- Whether a character can begin the name of a label. -/
def isLabelStart (c : Char) : Bool :=
  ('a' ≤ c && c ≤ 'z') || ('A' ≤ c && c ≤ 'Z') || c = '_'

/-- Whether a character can begin the name of a metric. -/
def isMetricStart (c : Char) : Bool :=
  isLabelStart c || c = ':'

/-- Whether the characters begin with one class and go on with it or digits. -/
def isName (start : Char → Bool) : List Char → Bool
  | [] => false
  | c :: cs => start c && cs.all fun d => start d || d.isDigit

/-- Whether the text is the name of a metric. -/
def isMetricName (s : String) : Bool :=
  isName isMetricStart s.toList

/-- Whether the text is the name of a label. -/
def isLabelName (s : String) : Bool :=
  isName isLabelStart s.toList

/-! ## Descriptors -/

/-- What a metric means and which labels its samples carry. -/
structure Descriptor where
  help : String
  labels : List String

/-- Why no series can be created for a descriptor. -/
inductive DescriptorError where
  | emptyHelp
  | badMetricName (name : String)
  | badLabelName (name : String)
  | repeatedLabel (name : String)
  deriving DecidableEq

/-- The wording of the fault of a descriptor. -/
def DescriptorError.message : DescriptorError → String
  | emptyHelp => "Error: empty help string"
  | badMetricName name => "Error: '" ++ name ++ "' is not a valid metric name"
  | badLabelName name => "Error: '" ++ name ++ "' is not a valid label name"
  | repeatedLabel name => "Error: duplicate variable label name " ++ name

/-- The first fault among label names, given the names before them. -/
def labelFault? (seen : List String) : List String → Option DescriptorError
  | [] => none
  | l :: ls =>
    if !isLabelName l then some (.badLabelName l)
    else if seen.contains l then some (.repeatedLabel l)
    else labelFault? (l :: seen) ls

/-- The first fault of a descriptor under a full name. -/
def Descriptor.fault? (d : Descriptor) (fullName : String) : Option DescriptorError :=
  if d.help.isEmpty then some .emptyHelp
  else if !isMetricName fullName then some (.badMetricName fullName)
  else labelFault? [] d.labels

/-! ## Catalogs -/

/-- The namespace of all metrics of this program. -/
def rootNamespace : String := "sap"

/-- The descriptors of one collector, latest first, under the subsystem that
their full names share. -/
structure Catalog where
  subsystem : String
  descriptors : List (String × Descriptor)

namespace Catalog

/-- A catalog without descriptors. -/
def empty (subsystem : String) : Catalog :=
  { subsystem := subsystem, descriptors := [] }

/-- The catalog with a descriptor under the name. -/
def insert (c : Catalog) (name help : String) (labels : List String) : Catalog :=
  { c with descriptors := (name, ⟨help, labels⟩) :: c.descriptors }

/-- The descriptor under the name. -/
def find? (c : Catalog) (name : String) : Option Descriptor :=
  c.descriptors.lookup name

@[simp] theorem find?_insert_self (c : Catalog) (name help : String) (labels : List String) :
    (c.insert name help labels).find? name = some ⟨help, labels⟩ := by
  simp [find?, insert]

theorem find?_insert_of_ne (c : Catalog) {name other : String} (help : String)
    (labels : List String) (h : other ≠ name) :
    (c.insert name help labels).find? other = c.find? other := by
  have : (other == name) = false := by simpa using h
  simp [find?, insert, List.lookup_cons, this]

/-- The name of a metric under its namespace and subsystem. -/
def fullName (c : Catalog) (name : String) : String :=
  rootNamespace ++ "_" ++ c.subsystem ++ "_" ++ name

/-- The name that a series is created under: an empty subsystem is left out,
and an empty name gives none. -/
def seriesName (c : Catalog) (name : String) : String :=
  if name.isEmpty then ""
  else if c.subsystem.isEmpty then rootNamespace ++ "_" ++ name
  else c.fullName name

/-- Both names agree when no part is empty. -/
theorem seriesName_of_parts {c : Catalog} {name : String} (hn : name.isEmpty = false)
    (hs : c.subsystem.isEmpty = false) : c.seriesName name = c.fullName name := by
  simp [seriesName, hn, hs]

end Catalog

end SapMonitor.Series
