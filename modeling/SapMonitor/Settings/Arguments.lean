import SapMonitor.Settings.Basic

/-!
# Settings from the command line

An option of the command line or of the environment replaces the setting of the
file or the default.
-/

namespace SapMonitor.Settings

/-- The options that were given. -/
structure Arguments where
  port : Option Nat := none
  address : Option String := none
  logLevel : Option String := none
  sapControlUrl : Option String := none
  hostDomain : Option String := none
  user : Option String := none
  password : Option String := none
  tlsSkipVerify : Option Bool := none
  alertMaxAge : Option String := none
  /-- The path of the settings file. -/
  file : Option String := none

/-- The settings with the given options in place. -/
def apply (s : Settings) (a : Arguments) : Except SettingsError Settings := do
  let maxAge ← match a.alertMaxAge with
    | some raw => readMaxAge raw
    | none => .ok s.alertMaxAge
  return { s with
    port := a.port.getD s.port
    address := a.address.getD s.address
    logLevel := a.logLevel.getD s.logLevel
    sapControlUrl := a.sapControlUrl.getD s.sapControlUrl
    hostDomain := a.hostDomain.getD s.hostDomain
    user := a.user.getD s.user
    password := a.password.getD s.password
    tlsSkipVerify := a.tlsSkipVerify.getD s.tlsSkipVerify
    alertMaxAge := maxAge }

end SapMonitor.Settings
