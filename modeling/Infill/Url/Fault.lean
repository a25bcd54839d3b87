import Infill.Text.Basic

/-!
# Faults of URLs
-/

namespace Infill.Url

/-- Why a text is no URL. -/
inductive Fault
  | noScheme
  | emptyHost
  | port
  | ipv4
  | ipv6
  | domain
  | hostCharacter
deriving DecidableEq, Repr

/-- The wording of a fault. -/
def Fault.message : Fault → Text
  | .noScheme => "relative URL without a base".toList
  | .emptyHost => "empty host".toList
  | .port => "invalid port number".toList
  | .ipv4 => "invalid IPv4 address".toList
  | .ipv6 => "invalid IPv6 address".toList
  | .domain => "invalid international domain name".toList
  | .hostCharacter => "invalid domain character".toList

end Infill.Url
