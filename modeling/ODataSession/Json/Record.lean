import ODataSession.Json.Reader

/-!
# Records in JSON

Reading a record off JSON text in one pass, so that the first fault from the left is the one that
is reported. A record is an object whose members may come in any order, or an array of its fields
in their own order that may stop early. A field that is not there keeps the value it had. A member
that no field is named after is skipped, whatever its value; a member that repeats a field is
refused as soon as its name is read. A value of the wrong type is `mismatched`, but a scalar is read
to its end before that is said.
-/

namespace ODataSession.Json

/-- Why a text is not the record that is wanted. -/
inductive RecordFault
  /-- The text is not JSON. -/
  | notJson (fault : Fault)
  /-- The text holds a value of the wrong type or out of range, or a field twice. -/
  | mismatched
  deriving DecidableEq, Repr, Inhabited

/-- Reading something off the front of a text that may hold a wrong value. -/
abbrev RecordReader (α : Type) := List Char → Except RecordFault (α × List Char)

/-- A step of reading that knows JSON only. -/
def grammar {α : Type} (result : Except Fault α) : Except RecordFault α :=
  result.mapError .notJson

/-- The text broke off. -/
def truncated : RecordFault := .notJson .truncated

/-- The text is not JSON whatever follows. -/
def malformed : RecordFault := .notJson .malformed

/-! ## Numbers -/

/-- Takes digits while the number that they spell fits in 64 bits. -/
def takeFitting : Nat → List Char → Nat × List Char
  | n, [] => (n, [])
  | n, c :: rest =>
    let m := n * 10 + (c.toNat - '0'.toNat)
    if m < UInt64.size then takeFitting m rest else (n, c :: rest)

/-- The digits of a numeral that fit in 64 bits, and the exponent that they stand with. -/
def leading (n : Numeral) : Nat × Int :=
  let (whole, ignored) := takeFitting 0 (Nat.toDigits 10 n.whole)
  let (digits, left) := takeFitting whole n.fraction
  (digits, ignored.length - (n.fraction.length - left.length : Nat) + n.exponent.getD 0)

/-- Whether a numeral is too large for a double. -/
def isOutOfRange (n : Numeral) : Bool :=
  let (digits, exponent) := leading n
  if digits = 0 || exponent < 0 then false
  else if 308 < exponent then true
  else (Float.ofScientific digits false 0 * Float.ofScientific 1 false exponent.toNat).isInf

/-- Reads a number; one that is too large for a double is no number at all. -/
def scanFiniteNumber (s : List Char) : Except Fault (Numeral × List Char) := do
  let (n, rest) ← scanNumber s
  match n.natural? with
  | some k => if UInt64.size ≤ k && isOutOfRange n then throw .malformed else return (n, rest)
  | none => if isOutOfRange n then throw .malformed else return (n, rest)

/-! ## Values of one type -/

/-- The fault of a value that is not of the wanted type. -/
def mismatch (s : List Char) : RecordFault :=
  let afterScalar {α : Type} (result : Except Fault α) : RecordFault :=
    match result with
    | .ok _ => .mismatched
    | .error fault => .notJson fault
  match skipSpace s with
  | [] => truncated
  | c :: rest =>
    if c = 'n' then afterScalar (scanWord "ull".toList rest)
    else if c = 't' then afterScalar (scanWord "rue".toList rest)
    else if c = 'f' then afterScalar (scanWord "alse".toList rest)
    else if c = '"' then afterScalar (scanString .exact rest)
    else if c = '-' || c.isDigit then afterScalar (scanFiniteNumber (c :: rest))
    else if c = '[' || c = '\x7b' then .mismatched
    else malformed

/-- Reads a text. -/
def readText : RecordReader String := fun s =>
  match skipSpace s with
  | '"' :: rest => do
    let (text, rest) ← grammar (scanString .exact rest)
    return (String.ofList text, rest)
  | s => .error (mismatch s)

/-- Reads a flag. -/
def readFlag : RecordReader Bool := fun s =>
  match skipSpace s with
  | 't' :: rest => do return (true, ← grammar (scanWord "rue".toList rest))
  | 'f' :: rest => do return (false, ← grammar (scanWord "alse".toList rest))
  | s => .error (mismatch s)

/-- Reads a natural number up to a largest one, written without point and exponent. -/
def readNatural (largest : Nat) : RecordReader Nat := fun s =>
  match skipSpace s with
  | [] => .error truncated
  | c :: rest =>
    if c = '-' || c.isDigit then do
      let (n, rest) ← grammar (scanFiniteNumber (c :: rest))
      match n.natural? with
      | some k => if k ≤ largest then return (k, rest) else throw .mismatched
      | none => throw .mismatched
    else .error (mismatch (c :: rest))

/-- Reads a value or `null`. -/
def readNullable {α : Type} (read : RecordReader α) : RecordReader (Option α) := fun s =>
  match skipSpace s with
  | 'n' :: rest => do return (none, ← grammar (scanWord "ull".toList rest))
  | s => do
    let (a, rest) ← read s
    return (some a, rest)

/-! ## Records -/

/-- A field of a record: its name, and how its value is read into the record. -/
structure Field (δ : Type) where
  name : String
  read : δ → RecordReader δ

/-- A field with a reader of its value and a way to set it. -/
def Field.of {α δ : Type} (name : String) (read : RecordReader α) (set : δ → α → δ) : Field δ where
  name
  read d s := do
    let (a, rest) ← read s
    return (set d a, rest)

section
variable {δ : Type} (fields : List (Field δ))

/-- Reads what follows the name of a member, and says which fields have been seen. -/
def readMember (name : String) (seen : List String) (d : δ) (s : List Char) :
    Except RecordFault (List String × δ × List Char) :=
  match fields.find? (·.name = name) with
  | some field =>
    if name ∈ seen then .error .mismatched
    else do
      let rest ← grammar (scanColon s)
      let (d, rest) ← field.read d rest
      return (name :: seen, d, rest)
  | none => do
    let rest ← grammar (scanColon s)
    let (_, rest) ← grammar (readValue .lenient rest)
    return (seen, d, rest)

/-- Reads members up to the closing brace. Each uses up a character, so the length of the text is
fuel enough. -/
def readFieldsWithin : Nat → List String → δ → RecordReader δ
  | 0, _, _, _ => .error truncated
  | fuel + 1, seen, d, s =>
    match skipSpace s with
    | [] => .error truncated
    | '"' :: rest => do
      let (name, rest) ← grammar (scanString .exact rest)
      let (seen, d, rest) ← readMember fields (String.ofList name) seen d rest
      match skipSpace rest with
      | ',' :: rest => readFieldsWithin fuel seen d rest
      | '\x7d' :: rest => return (d, rest)
      | [] => throw truncated
      | _ => throw malformed
    | _ => .error malformed

/-- Reads the end of an array whose fields have all been read. -/
def readArrayEnd (d : δ) : RecordReader δ := fun s =>
  match skipSpace s with
  | ']' :: rest => .ok (d, rest)
  | [] => .error truncated
  | _ => .error malformed

/-- Reads the fields of an array in their order, behind a field that has been read. -/
def readMoreInOrder : List (Field δ) → δ → RecordReader δ
  | [], d, s => readArrayEnd d s
  | field :: more, d, s =>
    match skipSpace s with
    | ']' :: rest => .ok (d, rest)
    | ',' :: rest =>
      match skipSpace rest with
      | [] => .error truncated
      | ']' :: _ => .error malformed
      | rest => do
        let (d, rest) ← field.read d rest
        readMoreInOrder more d rest
    | [] => .error truncated
    | _ => .error malformed

/-- Reads the fields of an array in their order. -/
def readInOrder (d : δ) : RecordReader δ := fun s =>
  match skipSpace s, fields with
  | ']' :: rest, _ => .ok (d, rest)
  | [], _ => .error truncated
  | s, [] => readArrayEnd d s
  | s, field :: more => do
    let (d, rest) ← field.read d s
    readMoreInOrder more d rest

/-- Reads a record over the values it has without the text. -/
def readRecord (d : δ) : RecordReader δ := fun s =>
  match skipSpace s with
  | '[' :: rest => readInOrder fields d rest
  | '\x7b' :: rest =>
    match skipSpace rest with
    | '\x7d' :: rest => .ok (d, rest)
    | rest => readFieldsWithin fields (rest.length + 1) [] d rest
  | s => .error (mismatch s)

/-- Reads a text that holds a record and nothing else. -/
def parseRecord (d : δ) (text : String) : Except RecordFault δ := do
  let (d, rest) ← readRecord fields d text.toList
  if (skipSpace rest).isEmpty then return d else throw malformed

end

end ODataSession.Json
