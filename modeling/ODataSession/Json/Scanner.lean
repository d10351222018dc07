import ODataSession.Json.Basic
import ODataSession.Text.Percent

/-!
# JSON tokens

The tokens of JSON text: blanks, words, strings and numbers, each read off the front of a text. A
text can fail in two ways: it ends while a token is open (`truncated`), or it holds something that
no continuation can mend (`malformed`).

A string is read `exact`ly or `lenient`ly. The exact reading gives the text that the string
stands for, and refuses a surrogate without its partner. The lenient reading is for values that
nobody looks at: it takes a lone surrogate for a replacement character. Likewise a number that
breaks off counts as malformed there.
-/

namespace ODataSession.Json

/-- Why a text is not JSON. -/
inductive Fault
  | malformed
  | truncated
  deriving DecidableEq, Repr, Inhabited

/-- How closely the strings and numbers of a value are looked at. -/
inductive Reading
  | exact
  | lenient
  deriving DecidableEq, Repr, Inhabited

/-- The blanks of JSON. -/
def isSpace (c : Char) : Bool :=
  c = ' ' || c = '\n' || c = '\t' || c = '\r'

/-- Drops the blanks in front. -/
def skipSpace (s : List Char) : List Char :=
  s.dropWhile isSpace

/-- Reads the characters of a word. -/
def scanWord : List Char → List Char → Except Fault (List Char)
  | [], s => .ok s
  | _ :: _, [] => .error .truncated
  | w :: word, c :: s => if w = c then scanWord word s else .error .malformed

/-- The number of octets of a text. -/
def octetCount (s : List Char) : Nat :=
  (Utf8.encode s).length

/-- Reads four hexadecimal digits. Fewer than four octets are a text that breaks off, whatever
they are. -/
def scanHexQuad : List Char → Except Fault (Nat × List Char)
  | a :: b :: c :: d :: rest =>
    match Percent.hexValue? a, Percent.hexValue? b, Percent.hexValue? c, Percent.hexValue? d with
    | some x, some y, some z, some w => .ok (((x * 16 + y) * 16 + z) * 16 + w, rest)
    | _, _, _, _ => .error .malformed
  | short => if 4 ≤ octetCount short then .error .malformed else .error .truncated

/-- The first of a pair of surrogates. -/
def isHighSurrogate (n : Nat) : Bool :=
  0xd800 ≤ n && n ≤ 0xdbff

/-- The second of a pair of surrogates. -/
def isLowSurrogate (n : Nat) : Bool :=
  0xdc00 ≤ n && n ≤ 0xdfff

/-- The character of a pair of surrogates. -/
def ofSurrogates (high low : Nat) : Char :=
  Char.ofNat (0x10000 + (high - 0xd800) * 0x400 + (low - 0xdc00))

/-- Reads the second half of a pair of surrogates, its backslash included. -/
def scanLowSurrogate (high : Nat) : List Char → Except Fault (Char × List Char)
  | [] => .error .truncated
  | ['\\'] => .error .truncated
  | '\\' :: 'u' :: rest => do
    let (low, rest) ← scanHexQuad rest
    if isLowSurrogate low then return (ofSurrogates high low, rest) else throw .malformed
  | _ => .error .malformed

/-- Reads the four digits of an escaped code unit, and its partner if it is a surrogate. -/
def scanCodeUnit (reading : Reading) (s : List Char) : Except Fault (Char × List Char) := do
  let (n, rest) ← scanHexQuad s
  if isHighSurrogate n || isLowSurrogate n then
    match reading with
    | .lenient => return ('\ufffd', rest)
    | .exact => if isHighSurrogate n then scanLowSurrogate n rest else throw .malformed
  else return (Char.ofNat n, rest)

/-- Reads an escape, the backslash being read already. -/
def scanEscape (reading : Reading) : List Char → Except Fault (Char × List Char)
  | [] => .error .truncated
  | 'u' :: rest => scanCodeUnit reading rest
  | c :: rest =>
    if c = '"' || c = '\\' || c = '/' then .ok (c, rest)
    else if c = 'b' then .ok ('\x08', rest)
    else if c = 'f' then .ok ('\x0c', rest)
    else if c = 'n' then .ok ('\n', rest)
    else if c = 'r' then .ok ('\r', rest)
    else if c = 't' then .ok ('\t', rest)
    else .error .malformed

/-- Reads a string, the opening quote being read already. Every round uses up a character, so the
length of the text bounds the rounds. -/
def scanStringWithin (reading : Reading) :
    Nat → List Char → Except Fault (List Char × List Char)
  | 0, _ => .error .truncated
  | _ + 1, [] => .error .truncated
  | fuel + 1, c :: rest =>
    if c = '"' then .ok ([], rest)
    else if c = '\\' then do
      let (d, rest) ← scanEscape reading rest
      let (s, rest) ← scanStringWithin reading fuel rest
      return (d :: s, rest)
    else if c < ' ' then .error .malformed
    else do
      let (s, rest) ← scanStringWithin reading fuel rest
      return (c :: s, rest)

/-- Reads a string, the opening quote being read already. -/
def scanString (reading : Reading) (s : List Char) : Except Fault (List Char × List Char) :=
  scanStringWithin reading (s.length + 1) s

/-- Reads at least one digit. -/
def scanDigits (s : List Char) : Except Fault (List Char × List Char) :=
  match s with
  | [] => .error .truncated
  | c :: _ =>
    if c.isDigit then .ok (s.takeWhile Char.isDigit, s.dropWhile Char.isDigit)
    else .error .malformed

/-- Reads a whole part: a zero alone, or digits that start with another one. -/
def scanWhole : List Char → Except Fault (Nat × List Char)
  | '0' :: rest =>
    match rest with
    | c :: _ => if c.isDigit then .error .malformed else .ok (0, rest)
    | [] => .ok (0, rest)
  | s => do
    let (digits, rest) ← scanDigits s
    return (Nat.ofDigitChars 10 digits 0, rest)

/-- Reads a point and the digits behind it, if there is a point. -/
def scanFraction : List Char → Except Fault (List Char × List Char)
  | '.' :: rest => scanDigits rest
  | s => .ok ([], s)

/-- Reads the sign and the digits of an exponent. -/
def scanExponentDigits (s : List Char) : Except Fault (Int × List Char) := do
  let (negative, s) := match s with
    | '-' :: rest => (true, rest)
    | '+' :: rest => (false, rest)
    | s => (false, s)
  let (digits, rest) ← scanDigits s
  let n : Int := Nat.ofDigitChars 10 digits 0
  return (if negative then -n else n, rest)

/-- Reads an exponent, if there is one. -/
def scanExponent : List Char → Except Fault (Option Int × List Char)
  | c :: rest =>
    if c = 'e' || c = 'E' then do
      let (n, rest) ← scanExponentDigits rest
      return (some n, rest)
    else .ok (none, c :: rest)
  | [] => .ok (none, [])

/-- Reads a number. -/
def scanNumber (s : List Char) : Except Fault (Numeral × List Char) := do
  let (negative, s) := match s with
    | '-' :: rest => (true, rest)
    | s => (false, s)
  let (whole, s) ← scanWhole s
  let (fraction, s) ← scanFraction s
  let (exponent, s) ← scanExponent s
  return (⟨negative, whole, fraction, exponent⟩, s)

end ODataSession.Json
