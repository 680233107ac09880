import SapMonitor.Text.Strip
import SapMonitor.Remote.StateColor
import SapMonitor.Remote.Record

/-!
# Members of the directory

A member is an instance of the system together with what is known about it: the
access point of its start service, its state as a number, and the name and the
system id that its properties report.
-/

namespace SapMonitor.Landscape

open Remote (Instance)

/-! ## Access points -/

/-- The host of an instance: a name of one word gets the domain. -/
def fullHost (hostname domain : String) : String :=
  if !Text.contains hostname "." && !domain.isEmpty then hostname ++ "." ++ domain else hostname

/-- The access point of the start service of an instance. -/
def endpoint (i : Instance) (useTls : Bool) (domain : String) : String :=
  if useTls then "https://" ++ fullHost i.hostname domain ++ ":" ++ toString i.httpsPort
  else "http://" ++ fullHost i.hostname domain ++ ":" ++ toString i.httpPort

/-! ## Members -/

/-- An instance and what is known about it. -/
structure Member where
  listed : Instance
  name : String := ""
  systemId : String := ""
  endpoint : String := ""
  status : Float := 0
  /-- Whether the properties of the instance could be read. -/
  resolved : Bool := false
  lastError : Option String := none

namespace Member

/-- The instance number in labels. -/
def numberLabel (m : Member) : String :=
  toString m.listed.number

/-- The labels that all metrics of an instance share: its name, its number, the
system id and the host. -/
def sharedLabels (m : Member) : List String :=
  [m.name, m.numberLabel, m.systemId, m.listed.hostname]

/-- Whether the features of the instance contain the text, in letters of either
case. -/
def provides (m : Member) (feature : String) : Bool :=
  Text.contains (Text.upper m.listed.features) (Text.upper feature)

end Member

/-- The names of the labels that all metrics of an instance share. -/
def sharedLabelNames : List String :=
  ["instance_name", "instance_number", "SID", "instance_hostname"]

end SapMonitor.Landscape
