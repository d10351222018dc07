import Mathlib.Data.List.Forall2
import ODataSession.Proofs.Json.Token

/-!
# The grammar of JSON

The texts of JSON values (`Json.IsValue`), with blanks wherever there may be some, numbers of any
form and strings with any escapes. A code unit that is escaped in a string may be a surrogate
without its partner. So a string is JSON by its pieces (`Json.IsString`), and it is another question
which text it spells, if any (`Json.Spells`): there a character above the basic plane is spelled by
both of its surrogates.
-/

namespace ODataSession.Json

/-! ## Blanks -/

/-- Blanks only, or nothing. -/
def IsBlank (s : List Char) : Prop :=
  ∀ c ∈ s, isSpace c = true

/-- There may be no blanks. -/
theorem isBlank_nil : IsBlank [] := nofun

/-- A space is a blank. -/
theorem isBlank_space : IsBlank [' '] := List.forall_mem_singleton.2 rfl

/-- A text and the blanks around it. -/
structure Padded where
  before : List Char
  text : List Char
  behind : List Char
  before_isBlank : IsBlank before
  behind_isBlank : IsBlank behind

/-- The characters of a text and of the blanks around it. -/
def Padded.chars (p : Padded) : List Char :=
  p.before ++ (p.text ++ p.behind)

/-! ## Strings -/

/-- Four hexadecimal digits, in either case, and their value. -/
inductive IsQuad : Nat → List Char → Prop
  | mk {a b c d : Char} {w x y z : Nat} (ha : Percent.hexValue? a = some w)
    (hb : Percent.hexValue? b = some x) (hc : Percent.hexValue? c = some y)
    (hd : Percent.hexValue? d = some z) : IsQuad (((w * 16 + x) * 16 + y) * 16 + z) [a, b, c, d]

/-- The characters that may stand behind a backslash, or have a letter that stands there for
them. -/
def escapeLetters : List (Char × Char) :=
  [('"', '"'), ('\\', '\\'), ('/', '/')] ++ controlLetters

/-- The pieces of a string: characters that stand for themselves, and escapes. -/
inductive IsPiece : List Char → Prop
  | plain {c : Char} (hmark : c ∉ ['"', '\\']) (hcontrol : ¬c.toNat < 32) : IsPiece [c]
  | letter {c letter : Char} (h : (c, letter) ∈ escapeLetters) : IsPiece ['\\', letter]
  | codeUnit {n : Nat} {quad : List Char} (h : IsQuad n quad) : IsPiece ('\\' :: 'u' :: quad)

/-- Pieces between quotes. -/
def enquoted (pieces : List (List Char)) : List Char :=
  '"' :: (pieces.flatten ++ ['"'])

/-- A string: pieces between quotes. -/
def IsString (s : List Char) : Prop :=
  ∃ pieces, (∀ piece ∈ pieces, IsPiece piece) ∧ s = enquoted pieces

/-- The ways in which a character is spelled in a string. -/
inductive SpellsChar : Char → List Char → Prop
  | plain {c : Char} (hmark : c ∉ ['"', '\\']) (hcontrol : ¬c.toNat < 32) : SpellsChar c [c]
  | letter {c letter : Char} (h : (c, letter) ∈ escapeLetters) : SpellsChar c ['\\', letter]
  | codeUnit {c : Char} {quad : List Char} (h : IsQuad c.toNat quad) :
    SpellsChar c ('\\' :: 'u' :: quad)
  | surrogates {c : Char} {high low : Nat} {quad quad' : List Char}
    (hhigh : isHighSurrogate high = true) (hquad : IsQuad high quad)
    (hlow : isLowSurrogate low = true) (hquad' : IsQuad low quad')
    (hvalue : c.toNat = 0x10000 + (high - 0xd800) * 0x400 + (low - 0xdc00)) :
    SpellsChar c ('\\' :: 'u' :: (quad ++ '\\' :: 'u' :: quad'))

/-- A string that spells a text: each character in one of its ways, between quotes. -/
def Spells (t : String) (s : List Char) : Prop :=
  ∃ pieces, List.Forall₂ SpellsChar t.toList pieces ∧ s = enquoted pieces

/-- A way of a character is made of pieces, of two for both surrogates. -/
theorem SpellsChar.exists_pieces {c : Char} {s : List Char} (h : SpellsChar c s) :
    ∃ pieces : List (List Char), (∀ piece ∈ pieces, IsPiece piece) ∧ pieces.flatten = s := by
  cases h with
  | plain hmark hcontrol =>
    exact ⟨[[c]], List.forall_mem_singleton.2 (.plain hmark hcontrol), rfl⟩
  | letter h => exact ⟨[_], List.forall_mem_singleton.2 (.letter h), rfl⟩
  | codeUnit h => exact ⟨[_], List.forall_mem_singleton.2 (.codeUnit h), List.flatten_singleton⟩
  | surrogates _ hquad _ hquad' _ =>
    refine ⟨[_, _], List.forall_mem_cons.2 ⟨.codeUnit hquad,
      List.forall_mem_singleton.2 (.codeUnit hquad')⟩, ?_⟩
    simp only [List.flatten_cons, List.flatten_nil, List.append_nil, List.cons_append]

/-- The ways of characters are made of pieces. -/
theorem exists_pieces_flatten {t : List Char} {ways : List (List Char)}
    (h : List.Forall₂ SpellsChar t ways) :
    ∃ pieces : List (List Char), (∀ piece ∈ pieces, IsPiece piece) ∧
      pieces.flatten = ways.flatten := by
  induction h with
  | nil => exact ⟨[], nofun, rfl⟩
  | cons hway _ ih =>
    obtain ⟨first, hfirst, hway⟩ := hway.exists_pieces
    obtain ⟨more, hmore, hways⟩ := ih
    exact ⟨first ++ more, List.forall_mem_append.2 ⟨hfirst, hmore⟩,
      by rw [List.flatten_append, hway, hways, List.flatten_cons]⟩

/-- A string that spells a text is a string. -/
theorem Spells.isString {t : String} {s : List Char} (h : Spells t s) : IsString s := by
  obtain ⟨ways, hways, rfl⟩ := h
  obtain ⟨pieces, hpieces, hflatten⟩ := exists_pieces_flatten hways
  exact ⟨pieces, hpieces, by rw [enquoted, enquoted, hflatten]⟩

/-! ## Numbers -/

/-- Digits, at least one. -/
def IsDigits (s : List Char) : Prop :=
  s ≠ [] ∧ ∀ c ∈ s, c.isDigit = true

/-- A whole part: digits, and no zero in front of other ones. -/
def IsWhole (s : List Char) : Prop :=
  IsDigits s ∧ (s.head? = some '0' → s = ['0'])

/-- A fraction, or nothing. -/
inductive IsFraction : List Char → Prop
  | none : IsFraction []
  | digits {s : List Char} (h : IsDigits s) : IsFraction ('.' :: s)

/-- An exponent, or nothing. -/
inductive IsExponent : List Char → Prop
  | none : IsExponent []
  | digits {mark : Char} {sign s : List Char} (hmark : mark ∈ ['e', 'E'])
    (hsign : sign ∈ [[], ['+'], ['-']]) (h : IsDigits s) : IsExponent (mark :: (sign ++ s))

/-- A number. -/
def IsNumber (s : List Char) : Prop :=
  ∃ sign whole fraction exponent, sign ∈ [[], ['-']] ∧ IsWhole whole ∧ IsFraction fraction ∧
    IsExponent exponent ∧ s = sign ++ (whole ++ (fraction ++ exponent))

/-! ## Values -/

/-- The parts of an array or of an object between its brackets, with commas between them. Where
there are no parts there may be blanks. -/
inductive Encloses (opening closing : Char) : List (List Char) → List Char → Prop
  | none {blank : List Char} (h : IsBlank blank) :
    Encloses opening closing [] (opening :: (blank ++ [closing]))
  | some (part : List Char) (parts : List (List Char)) : Encloses opening closing (part :: parts)
    (opening :: ([','].intercalate (part :: parts) ++ [closing]))

/-- A member of an object. -/
structure Member where
  name : Padded
  value : Padded

/-- The characters of a member. -/
def Member.chars (m : Member) : List Char :=
  m.name.chars ++ ':' :: m.value.chars

/-- The words of JSON. -/
def words : List (List Char) :=
  ["null".toList, "true".toList, "false".toList]

/-- The texts of values. -/
inductive IsValue : List Char → Prop
  | word {s : List Char} (h : s ∈ words) : IsValue s
  | number {s : List Char} (h : IsNumber s) : IsValue s
  | string {s : List Char} (h : IsString s) : IsValue s
  | array {items : List Padded} {s : List Char} (hitems : ∀ item ∈ items, IsValue item.text)
    (hs : Encloses '[' ']' (items.map Padded.chars) s) : IsValue s
  | object {members : List Member} {s : List Char} (hnames : ∀ m ∈ members, IsString m.name.text)
    (hvalues : ∀ m ∈ members, IsValue m.value.text)
    (hs : Encloses '\x7b' '\x7d' (members.map Member.chars) s) : IsValue s

end ODataSession.Json
