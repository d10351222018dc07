import ODataSession.Text.Utf8

/-!
# Percent encoding

`encode keep` leaves the characters of a class as they are and writes every other character as
its UTF-8 octets, each as a percent sign and two upper-case hexadecimal digits. `decode?` undoes
the escapes and reads the octets as UTF-8; `octets` undoes the escapes only, and leaves a percent
sign that no two hexadecimal digits follow as it stands.
-/

namespace ODataSession.Percent

/-- The hexadecimal digit of a value below sixteen, in upper case. -/
def hexDigit (n : Nat) : Char :=
  (Nat.digitChar n).toUpper

/-- The value of a hexadecimal digit of either case. -/
def hexValue? (c : Char) : Option Nat :=
  if '0' ≤ c && c ≤ '9' then some (c.toNat - '0'.toNat)
  else if 'a' ≤ c && c ≤ 'f' then some (c.toNat - 'a'.toNat + 10)
  else if 'A' ≤ c && c ≤ 'F' then some (c.toNat - 'A'.toNat + 10)
  else none

/-- An octet as a percent sign and two hexadecimal digits. -/
def escapeOctet (b : UInt8) : List Char :=
  ['%', hexDigit (b.toNat / 16), hexDigit (b.toNat % 16)]

/-- A character as it stands if the class keeps it, otherwise as its escaped octets. -/
def encodeChar (keep : Char → Bool) (c : Char) : List Char :=
  if keep c then [c] else (String.utf8EncodeChar c).flatMap escapeOctet

/-- A text with every character outside the class escaped. -/
def encode (keep : Char → Bool) (s : List Char) : List Char :=
  s.flatMap (encodeChar keep)

/-- The octets that a text with escapes stands for. -/
def octets : List Char → List UInt8
  | '%' :: a :: b :: rest =>
    match hexValue? a, hexValue? b with
    | some x, some y => UInt8.ofNat (x * 16 + y) :: octets rest
    | _, _ => String.utf8EncodeChar '%' ++ octets (a :: b :: rest)
  | c :: rest => String.utf8EncodeChar c ++ octets rest
  | [] => []

/-- The text that a text with escapes stands for, if its octets are well-formed. -/
def decode? (s : List Char) : Option (List Char) :=
  Utf8.decode? (octets s)

end ODataSession.Percent
