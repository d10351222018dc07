/-!
# URL errors

Why a text is not a URL, or a reference does not resolve.
-/

namespace ODataSession

/-- Why a text is not a URL. -/
inductive UrlError
  | emptyHost
  | invalidDomain
  | invalidPort
  | invalidIpv4
  | invalidIpv6
  | invalidDomainCharacter
  /-- A reference without a scheme, and no base to resolve it against. -/
  | missingBase
  /-- A reference without a scheme, and a base whose path has no segments. -/
  | rootlessBase
  deriving DecidableEq, Repr, Inhabited

/-- The text shown for an error. -/
def UrlError.message : UrlError → String
  | .emptyHost => "empty host"
  | .invalidDomain => "invalid international domain name"
  | .invalidPort => "invalid port number"
  | .invalidIpv4 => "invalid IPv4 address"
  | .invalidIpv6 => "invalid IPv6 address"
  | .invalidDomainCharacter => "invalid domain character"
  | .missingBase => "relative URL without a base"
  | .rootlessBase => "relative URL with a cannot-be-a-base base"

end ODataSession
