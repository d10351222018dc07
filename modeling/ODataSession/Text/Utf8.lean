/-!
# UTF-8

Text as octets and octets as text. Encoding is core's `String.utf8EncodeChar`, one character
at a time. Decoding reads one character at a time too: `readChar` takes a well-formed sequence
off the front, where the range of the second octet depends on the first, so that overlong forms,
surrogates and values past the last code point are refused. `decode?` refuses ill-formed octets;
`decodeLossy` writes a replacement character for each longest ill-formed stretch that could have
begun a character.
-/

namespace ODataSession.Utf8

/-- The octets of a text. -/
def encode (s : List Char) : List UInt8 :=
  s.flatMap String.utf8EncodeChar

/-- How many octets follow a leading octet, and the range of the first of them. -/
structure Lead where
  following : Nat
  low : UInt8
  high : UInt8

/-- The demands of a leading octet above the ASCII range, if it can lead a character. -/
def lead? (b : UInt8) : Option Lead :=
  if 0xc2 ≤ b && b ≤ 0xdf then some ⟨1, 0x80, 0xbf⟩
  else if b = 0xe0 then some ⟨2, 0xa0, 0xbf⟩
  else if b = 0xed then some ⟨2, 0x80, 0x9f⟩
  else if 0xe1 ≤ b && b ≤ 0xef then some ⟨2, 0x80, 0xbf⟩
  else if b = 0xf0 then some ⟨3, 0x90, 0xbf⟩
  else if 0xf1 ≤ b && b ≤ 0xf3 then some ⟨3, 0x80, 0xbf⟩
  else if b = 0xf4 then some ⟨3, 0x80, 0x8f⟩
  else none

/-- The payload bits of a leading octet that is followed by the given number of octets. -/
def leadBits (following : Nat) (b : UInt8) : Nat :=
  b.toNat % (1 <<< (6 - following))

/-- What one reading step finds at the front of the octets. -/
inductive Step
  /-- A whole character and the octets behind it. -/
  | char (c : Char) (rest : List UInt8)
  /-- An ill-formed stretch and the octets behind it. -/
  | broken (rest : List UInt8)

/-- Reads the octets that still belong to a character; `low` and `high` bound the next one. -/
def readTail : Nat → UInt8 → UInt8 → Nat → List UInt8 → Step
  | 0, _, _, acc, rest => .char (Char.ofNat acc) rest
  | _ + 1, _, _, _, [] => .broken []
  | n + 1, low, high, acc, b :: rest =>
    if low ≤ b && b ≤ high then readTail n 0x80 0xbf (acc * 64 + b.toNat % 64) rest
    else .broken (b :: rest)

/-- Reads one character, or one ill-formed stretch, that starts with `b`. -/
def readChar (b : UInt8) (rest : List UInt8) : Step :=
  if b < 0x80 then .char (Char.ofNat b.toNat) rest
  else match lead? b with
    | some d => readTail d.following d.low d.high (leadBits d.following b) rest
    | none => .broken rest

/-- The octets that a reading step leaves. -/
def Step.rest : Step → List UInt8
  | .char _ rest => rest
  | .broken rest => rest

/-- Reading the rest of a character never lengthens what is left. -/
theorem length_rest_readTail (n : Nat) (low high : UInt8) (acc : Nat) (s : List UInt8) :
    (readTail n low high acc s).rest.length ≤ s.length := by
  induction n generalizing low high acc s with
  | zero => simp [readTail, Step.rest]
  | succ n ih =>
    cases s with
    | nil => simp [readTail, Step.rest]
    | cons b s =>
      simp only [readTail]
      split
      · exact Nat.le_succ_of_le (ih _ _ _ _)
      · simp [Step.rest]

/-- A reading step uses up its first octet. -/
theorem length_rest_readChar (b : UInt8) (s : List UInt8) :
    (readChar b s).rest.length ≤ s.length := by
  unfold readChar
  split
  · simp [Step.rest]
  · split
    · exact length_rest_readTail _ _ _ _ _
    · simp [Step.rest]

/-- The text of well-formed octets. -/
def decode? : List UInt8 → Option (List Char)
  | [] => some []
  | b :: s =>
    match _h : readChar b s with
    | .char c rest => (decode? rest).map (c :: ·)
    | .broken _ => none
termination_by s => s.length
decreasing_by
  have := length_rest_readChar b s
  rw [_h] at this
  exact Nat.lt_succ_of_le this

/-- The text of any octets, with U+FFFD for each ill-formed stretch. -/
def decodeLossy : List UInt8 → List Char
  | [] => []
  | b :: s =>
    match _h : readChar b s with
    | .char c rest => c :: decodeLossy rest
    | .broken rest => '\ufffd' :: decodeLossy rest
termination_by s => s.length
decreasing_by
  all_goals
    have := length_rest_readChar b s
    rw [_h] at this
    exact Nat.lt_succ_of_le this

end ODataSession.Utf8
