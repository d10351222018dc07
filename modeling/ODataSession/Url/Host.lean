import ODataSession.Url.Address
import ODataSession.Url.Domain
import ODataSession.Url.Error

/-!
# Hosts

The host of a URL. A host between square brackets is an IPv6 address. Under a special scheme any
other host is a domain: its escapes are undone, its ASCII form is taken, and if it ends in a
number it has to be an IPv4 address. Under other schemes a host is a text with its control
characters escaped, and may be empty.
-/

namespace ODataSession.Url

/-- The host of a URL. -/
inductive Host
  | name (text : List Char)
  | ipv4 (address : Nat)
  | ipv6 (pieces : List Nat)
  deriving DecidableEq, Repr, Inhabited

namespace Host

/-- The text of a host; an IPv6 address stands between square brackets. -/
def chars : Host → List Char
  | .name text => text
  | .ipv4 address => ipv4Text address
  | .ipv6 pieces => '[' :: (ipv6Text pieces ++ [']'])

/-- Whether there is no host. -/
def isEmpty : Host → Bool
  | .name text => text.isEmpty
  | _ => false

/-- Reads what stands between square brackets. -/
def ofBracketed (text : List Char) : Except UrlError Host :=
  if text.getLast? = some ']' then
    match ipv6? (text.drop 1).dropLast with
    | some pieces => .ok (.ipv6 pieces)
    | none => .error .invalidIpv6
  else .error .invalidIpv6

/-- Reads a domain or an IPv4 address. -/
def ofDomain (text : List Char) : Except UrlError Host :=
  match Percent.decode? text >>= domainToAscii? with
  | none => .error .invalidDomain
  | some domain =>
    if domain.isEmpty then .error .emptyHost
    else if endsInNumber domain then
      match ipv4? domain with
      | some address => .ok (.ipv4 address)
      | none => .error .invalidIpv4
    else .ok (.name domain)

/-- Reads a host under a special scheme. -/
def ofSpecial (text : List Char) : Except UrlError Host :=
  if text.isEmpty then .error .emptyHost
  else if text.head? = some '[' then ofBracketed text
  else ofDomain text

/-- Reads a host under a scheme that is not special. -/
def ofOther (text : List Char) : Except UrlError Host :=
  if text.head? = some '[' then ofBracketed text
  else if text.any isForbiddenInHost then .error .invalidDomainCharacter
  else .ok (.name (Percent.encode keptInRootless text))

end Host

end ODataSession.Url
