import ODataSession.Decimal.Shortest
import ODataSession.Json.Basic

/-!
# Compact JSON text

Values as JSON text without blanks. A string escapes the quote, the backslash and the control
characters below the space, five of them by a letter and the others by four lower-case hexadecimal
digits; all else is verbatim. A whole number in the range of 64-bit integers is written as it
stands, and any other number as the nearest double.
-/

namespace ODataSession

namespace Json

/-- A character inside a JSON string. -/
def escapeChar (c : Char) : List Char :=
  if c = '"' then ['\\', '"']
  else if c = '\\' then ['\\', '\\']
  else if c = '\x08' then ['\\', 'b']
  else if c = '\x0c' then ['\\', 'f']
  else if c = '\n' then ['\\', 'n']
  else if c = '\r' then ['\\', 'r']
  else if c = '\t' then ['\\', 't']
  else if c.toNat < 32 then
    ['\\', 'u', '0', '0', Nat.digitChar (c.toNat / 16), Nat.digitChar (c.toNat % 16)]
  else [c]

/-- A text as a JSON string. -/
def quoted (s : List Char) : List Char :=
  '"' :: (s.flatMap escapeChar ++ ['"'])

end Json

namespace Numeral

/-- The nearest double. -/
def toDouble (n : Numeral) : Float :=
  let digits := Nat.toDigits 10 n.whole ++ n.fraction
  let exponent := n.exponent.getD 0 - n.fraction.length
  let magnitude := Float.ofScientific (Nat.ofDigitChars 10 digits 0) (exponent < 0) exponent.natAbs
  if n.negative then -magnitude else magnitude

end Numeral

namespace Decimal

/-- The JSON text of a decimal: positional with a fraction while its leading digit stands between
the fifth place behind the point and the sixteenth before it, else one digit, a point and an
exponent. -/
def Scientific.jsonText (s : Scientific) : List Char :=
  let digits := Nat.toDigits 10 s.digits
  let point : Int := digits.length + s.exponent
  if 0 ≤ s.exponent ∧ point ≤ 16 then s.positional ++ ['.', '0']
  else if -5 < point ∧ point ≤ 16 then s.positional
  else
    let exponent := 'e' :: (toString (point - 1)).toList
    match digits with
    | [d] => d :: exponent
    | d :: rest => d :: '.' :: (rest ++ exponent)
    | [] => exponent

/-- The JSON text of a double; JSON has no word for the values without digits but `null`. A tie goes
to the even digit. -/
def Double.jsonText : Double → List Char
  | .nan | .infinite _ => "null".toList
  | .zero negative => signed negative "0.0".toList
  | .finite negative magnitude => signed negative (magnitude.shortest .toEven).jsonText

end Decimal

namespace Numeral

/-- The text of a number. -/
def compact (n : Numeral) : List Char :=
  match n.integer? with
  | some i =>
    if (n.negative && n.whole = 0) || i < Int64.minValue.toInt || UInt64.size ≤ i then
      (Decimal.Double.ofBits n.toDouble.toBits).jsonText
    else (toString i).toList
  | none => (Decimal.Double.ofBits n.toDouble.toBits).jsonText

end Numeral

namespace Json

mutual

/-- The characters of a value. -/
def chars : Json → List Char
  | .null => "null".toList
  | .bool true => "true".toList
  | .bool false => "false".toList
  | .number n => n.compact
  | .string s => quoted s.toList
  | .array items => '[' :: (itemsChars items ++ [']'])
  | .object members => '\x7b' :: (membersChars members ++ ['\x7d'])

/-- The items of an array, with commas between them. -/
def itemsChars : List Json → List Char
  | [] => []
  | [v] => chars v
  | v :: w :: rest => chars v ++ ',' :: itemsChars (w :: rest)

/-- The members of an object, with commas between them. -/
def membersChars : List (String × Json) → List Char
  | [] => []
  | [(k, v)] => quoted k.toList ++ ':' :: chars v
  | (k, v) :: m :: rest => quoted k.toList ++ ':' :: chars v ++ ',' :: membersChars (m :: rest)

end

/-- The compact text of a value. -/
def compact (v : Json) : String :=
  String.ofList v.chars

end Json

end ODataSession
