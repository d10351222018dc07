import ODataSession.Http.Header
import ODataSession.Text.Blank

/-!
# Credentials

The cookie that proves a session. It is put together from the `Set-Cookie` values of the answer to
a login: of each value that is readable as text, the part before the first semicolon counts if it
has an equals sign behind a name that is not blank. The parts are joined in order, and the
attributes behind them are dropped.
-/

namespace ODataSession

namespace Cookie

/-- The octets that are readable as text in a header: the printable characters of ASCII and the
tab. -/
def isReadable (b : UInt8) : Bool :=
  (0x20 ≤ b && b ≤ 0x7e) || b = 0x09

/-- The text of a header value, if all of it is readable. -/
def readable? (value : List UInt8) : Option (List Char) :=
  if value.all isReadable then some (value.map fun b => Char.ofNat b.toNat) else none

/-- The name and value of a cookie, if the text of a header value has them. -/
def pair? (text : List Char) : Option (List Char) :=
  let pair := Text.trimBy Text.isBlank (text.takeWhile (· ≠ ';'))
  if pair.contains '=' && !(pair.takeWhile (· ≠ '=')).all Text.isBlank then some pair else none

/-- The cookies of header values, in order. -/
def pairs (values : List (List UInt8)) : List (List Char) :=
  values.filterMap fun value => readable? value >>= pair?

end Cookie

/-- The cookie of a session. -/
structure Credential where
  cookie : String
  deriving DecidableEq, Inhabited

namespace Credential

/-- The credential that `Set-Cookie` values give, if any of them gives a cookie. -/
def ofSetCookie? (values : List (List UInt8)) : Option Credential :=
  match Cookie.pairs values with
  | [] => none
  | pairs => some ⟨String.ofList ([';', ' '].intercalate pairs)⟩

/-- The cookie as the value of a header, if it is fit for one. -/
def headerValue? (c : Credential) : Option String :=
  if Http.isHeaderValue c.cookie.toList then some c.cookie else none

/-- Text that shows that there is a credential, and nothing of the cookie. -/
def describe (_ : Credential) : String :=
  "SessionCredential(\"[REDACTED]\")"

end Credential

end ODataSession
