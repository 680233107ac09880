import SapMonitor.Url.Host

/-!
# URLs

A URL is held by its parts, already encoded.  The port is left out when it is
the one that its scheme implies.
-/

namespace SapMonitor

/-- A URL by its parts. -/
structure Url where
  scheme : String
  user : String := ""
  password : String := ""
  host : Option Url.Host := none
  port : Option Nat := none
  path : String := ""
  query : Option String := none
  fragment : Option String := none

namespace Url

/-- The ports that schemes with domains imply. -/
def defaultPorts : List (String × Nat) :=
  [("http", 80), ("https", 443), ("ws", 80), ("wss", 443), ("ftp", 21)]

/-- Whether the hosts of a scheme are domains. -/
def isSpecial (scheme : String) : Bool :=
  (defaultPorts.lookup scheme).isSome

/-- The user part with the sign that ends it. -/
def userText (u : Url) : String :=
  if u.password.isEmpty then (if u.user.isEmpty then "" else u.user ++ "@")
  else u.user ++ ":" ++ u.password ++ "@"

/-- The port with the colon before it. -/
def portText (u : Url) : String :=
  match u.port with
  | some p => ":" ++ toString p
  | none => ""

/-- The part from the slashes to the path. -/
def authorityText (u : Url) : String :=
  match u.host with
  | some h => "//" ++ u.userText ++ h.text ++ u.portText
  | none => ""

/-- The text of a URL. -/
def text (u : Url) : String :=
  u.scheme ++ ":" ++ u.authorityText ++ u.path ++
    (match u.query with | some q => "?" ++ q | none => "") ++
    (match u.fragment with | some f => "#" ++ f | none => "")

/-- The URL without its user part. -/
def withoutUser (u : Url) : Url :=
  { u with user := "", password := "" }

end Url

end SapMonitor
