import SapMonitor.Decimal.Integer
import SapMonitor.Settings.Arguments

/-!
# Flags of the command line

Each flag takes one value.  Some can also be set by a variable of the
environment.
-/

namespace SapMonitor.CommandLine

open Settings (Arguments)

/-- A flag with a value. -/
inductive Flag where
  | port
  | address
  | logLevel
  | sapControlUrl
  | hostDomain
  | user
  | password
  | tlsSkipVerify
  | alertMaxAge
  | file
  deriving DecidableEq

/-- Why the command line does not lead to a run. -/
inductive Stop where
  /-- The help text is asked for. -/
  | help
  /-- The version is asked for. -/
  | version
  /-- A value cannot be read. -/
  | badValue
  /-- A value is missing or not among those allowed. -/
  | invalidValue
  /-- The argument is not known. -/
  | unknownArgument
  /-- The flag is given twice. -/
  | conflict
  /-- A flag without value is given one. -/
  | tooManyValues
  deriving DecidableEq

namespace Flag

/-- All flags in the order of their help texts. -/
def all : List Flag :=
  [port, address, logLevel, sapControlUrl, hostDomain, user, password, tlsSkipVerify, alertMaxAge,
    file]

/-- The name after two hyphens. -/
def long : Flag → String
  | port => "port"
  | address => "address"
  | logLevel => "log-level"
  | sapControlUrl => "sap-control-url"
  | hostDomain => "host-domain"
  | user => "sap-control-user"
  | password => "sap-control-password"
  | tlsSkipVerify => "tls-skip-verify"
  | alertMaxAge => "alert-samples-max-age"
  | file => "config"

/-- The flag with the name. -/
def ofLong? (name : String) : Option Flag :=
  all.find? fun f => f.long == name

/-- The variable of the environment that sets a flag which is not given. -/
def envName? : Flag → Option String
  | port => some "PORT"
  | address => some "ADDRESS"
  | logLevel => some "LOG_LEVEL"
  | sapControlUrl => some "SAP_CONTROL_URL"
  | hostDomain => some "SAP_CONTROL_DOMAIN"
  | user => some "SAP_CONTROL_USER"
  | password => some "SAP_CONTROL_PASSWORD"
  | tlsSkipVerify => none
  | alertMaxAge => none
  | file => none

/-- Whether the value of a flag may begin with a hyphen; then it may be anything
at all. -/
def takesHyphens : Flag → Bool
  | alertMaxAge => true
  | _ => false

/-- Whether a flag is given. -/
def isGiven (a : Arguments) : Flag → Bool
  | port => a.port.isSome
  | address => a.address.isSome
  | logLevel => a.logLevel.isSome
  | sapControlUrl => a.sapControlUrl.isSome
  | hostDomain => a.hostDomain.isSome
  | user => a.user.isSome
  | password => a.password.isSome
  | tlsSkipVerify => a.tlsSkipVerify.isSome
  | alertMaxAge => a.alertMaxAge.isSome
  | file => a.file.isSome

/-- The number of a port. -/
def readPort (value : String) : Except Stop Nat :=
  match Decimal.readInt? value.toList with
  | some n => if 0 ≤ n && n ≤ 65535 then .ok n.toNat else .error .badValue
  | none => .error .badValue

/-- A truth value. -/
def readBool (value : String) : Except Stop Bool :=
  if value = "true" then .ok true
  else if value = "false" then .ok false
  else .error .invalidValue

/-- The path of a file. -/
def readPath (value : String) : Except Stop String :=
  if value.isEmpty then .error .invalidValue else .ok value

/-- The arguments with a flag set. -/
def set (a : Arguments) (value : String) : Flag → Except Stop Arguments
  | port => (readPort value).map fun n => { a with port := some n }
  | address => .ok { a with address := some value }
  | logLevel => .ok { a with logLevel := some value }
  | sapControlUrl => .ok { a with sapControlUrl := some value }
  | hostDomain => .ok { a with hostDomain := some value }
  | user => .ok { a with user := some value }
  | password => .ok { a with password := some value }
  | tlsSkipVerify => (readBool value).map fun b => { a with tlsSkipVerify := some b }
  | alertMaxAge => .ok { a with alertMaxAge := some value }
  | file => (readPath value).map fun p => { a with file := some p }

end Flag

end SapMonitor.CommandLine
