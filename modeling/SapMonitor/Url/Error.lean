/-!
# What can be wrong with an address

The addresses of the service and of the log store are URLs.  This module names
the faults of their text.
-/

namespace SapMonitor.Url

/-- What can be wrong with the text of a URL. -/
inductive UrlError where
  | emptyHost
  | invalidPort
  | invalidIpv4
  | invalidIpv6
  | invalidDomain
  | invalidDomainCharacter
  | relativeWithoutBase
  deriving DecidableEq

/-- The wording of a fault. -/
def UrlError.message : UrlError → String
  | emptyHost => "empty host"
  | invalidPort => "invalid port number"
  | invalidIpv4 => "invalid IPv4 address"
  | invalidIpv6 => "invalid IPv6 address"
  | invalidDomain => "invalid international domain name"
  | invalidDomainCharacter => "invalid domain character"
  | relativeWithoutBase => "relative URL without a base"

end SapMonitor.Url
