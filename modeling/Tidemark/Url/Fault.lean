/-!
# What can be wrong with a URL
-/

namespace Tidemark.Url

/-- Why a text is not a URL, or cannot be resolved against one. -/
inductive Fault where
  | emptyHost
  /-- The host is no domain name, or holds a character that a domain name must not hold. -/
  | invalidDomain
  | invalidPort
  | invalidIpv4
  | invalidIpv6
  /-- The host of a URL whose scheme has no rules for hosts holds a forbidden character. -/
  | invalidHostCharacter
  | relativeWithoutBase
  | relativeToOpaque
  deriving DecidableEq, Repr

namespace Fault

/-- The wording of a fault. -/
def message : Fault → String
  | .emptyHost => "empty host"
  | .invalidDomain => "invalid international domain name"
  | .invalidPort => "invalid port number"
  | .invalidIpv4 => "invalid IPv4 address"
  | .invalidIpv6 => "invalid IPv6 address"
  | .invalidHostCharacter => "invalid domain character"
  | .relativeWithoutBase => "relative URL without a base"
  | .relativeToOpaque => "relative URL with a cannot-be-a-base base"

end Fault

end Tidemark.Url
