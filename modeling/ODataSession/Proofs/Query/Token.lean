import Mathlib.Data.List.Chain
import ODataSession.Proofs.Query.Literal
import ODataSession.Proofs.Text.Parts

/-!
# The tokens of filters

A filter as tokens: words, quoted texts, and the marks between them, spaces included. Reading takes
the longest word, and a quoted text up to the first quote that no second quote follows. So a list of
tokens is read back from its characters if no two of its neighbours could run into each other, that
is, if one of any two neighbours is a mark (`Token.readAll?_flatMap_chars`). What stands inside a
quoted text plays no part in this: it may hold marks, keywords and quotes.
-/

namespace ODataSession

/-- The characters of words. -/
def isWordChar (c : Char) : Bool :=
  !(c = ' ' || c = ',' || c = '(' || c = ')' || c = Quoted.quote)

/-- A text without spaces, commas, parentheses and quotes that is not empty. -/
def IsWord (s : String) : Prop :=
  s.toList ≠ [] ∧ ∀ c ∈ s.toList, isWordChar c

instance (s : String) : Decidable (IsWord s) :=
  decidable_of_iff (s.toList ≠ [] ∧ s.toList.all isWordChar = true) (by
    rw [IsWord, List.all_eq_true])

/-- A piece of the text of a filter. -/
inductive Token
  | word (text : String)
  /-- A text between quotes, without the quotes and with those inside it undoubled. -/
  | quoted (text : String)
  | space
  | comma
  | leftParen
  | rightParen
  deriving DecidableEq, Repr, Inhabited

namespace Token

/-- The mark that a character is. -/
def ofMark? (c : Char) : Option Token :=
  if c = ' ' then some .space
  else if c = ',' then some .comma
  else if c = '(' then some .leftParen
  else if c = ')' then some .rightParen
  else none

/-- The tokens of a text. -/
def readAll? : List Char → Option (List Token)
  | [] => some []
  | c :: s =>
    match ofMark? c with
    | some mark => (readAll? s).map (mark :: ·)
    | none =>
      if c = Quoted.quote then
        match _h : Quoted.readInside s with
        | some (inside, rest) => (readAll? rest).map (.quoted (String.ofList inside) :: ·)
        | none => none
      else
        (readAll? (s.dropWhile isWordChar)).map
          (.word (String.ofList (c :: s.takeWhile isWordChar)) :: ·)
termination_by s => s.length
decreasing_by
  · exact Nat.lt_succ_self _
  · exact Nat.lt_succ_of_lt (Quoted.length_rest_readInside _h)
  · exact Nat.lt_succ_of_le (List.dropWhile_suffix _).length_le

/-- The characters of a token. -/
def chars : Token → List Char
  | .word text => text.toList
  | .quoted text => Quoted.render text.toList
  | .space => [' ']
  | .comma => [',']
  | .leftParen => ['(']
  | .rightParen => [')']

@[simp] theorem chars_word (text : String) : (word text).chars = text.toList := rfl
@[simp] theorem chars_space : space.chars = [' '] := rfl
@[simp] theorem chars_comma : comma.chars = [','] := rfl
@[simp] theorem chars_leftParen : leftParen.chars = ['('] := rfl
@[simp] theorem chars_rightParen : rightParen.chars = [')'] := rfl

/-- The text of a token. -/
def text (t : Token) : String :=
  String.ofList t.chars

/-- Whether a token is a single character that ends every token before it. -/
def isMark : Token → Bool
  | .word _ | .quoted _ => false
  | _ => true

/-- A token whose characters are read as one token. -/
def IsProper : Token → Prop
  | .word text => IsWord text
  | _ => True

/-- Neighbours of which one is a mark. -/
def Adjoins (t u : Token) : Prop :=
  t.isMark ∨ u.isMark

instance (t u : Token) : Decidable (t.Adjoins u) :=
  inferInstanceAs (Decidable (_ ∨ _))

/-! ## Reading tokens back -/

/-- A character of words is no mark and no quote. -/
theorem ofMark?_of_isWordChar {c : Char} (h : isWordChar c) :
    ofMark? c = none ∧ c ≠ Quoted.quote := by
  simp only [isWordChar, Bool.not_eq_true', Bool.or_eq_false_iff, decide_eq_false_iff_not] at h
  simp [ofMark?, h]

/-- A mark is no character of words. -/
theorem isWordChar_of_isSome_ofMark? {c : Char} (h : (ofMark? c).isSome) :
    isWordChar c = false := by
  by_contra hc
  rw [(ofMark?_of_isWordChar (Bool.not_eq_false _ ▸ hc)).1] at h
  cases h

/-- A mark starts with the character that it is. -/
theorem isSome_ofMark?_of_isMark {t : Token} (h : t.isMark) (rest : List Char) :
    ∀ c ∈ (t.chars ++ rest).head?, (ofMark? c).isSome := by
  cases t with
  | word | quoted => cases h
  | space | comma | leftParen | rightParen =>
    rintro c ⟨⟩
    rfl

section
variable {rest : List Char} (hrest : ∀ c ∈ rest.head?, (ofMark? c).isSome)
include hrest

/-- A word is read back in front of a mark. -/
theorem readAll?_word {w : String} (hw : IsWord w) :
    readAll? (w.toList ++ rest) = (readAll? rest).map (.word w :: ·) := by
  obtain ⟨hne, hall⟩ := hw
  obtain ⟨c, s, hs⟩ := List.exists_cons_of_ne_nil hne
  rw [hs] at hall
  obtain ⟨hc, hall⟩ := List.forall_mem_cons.1 hall
  obtain ⟨hmark, hquote⟩ := ofMark?_of_isWordChar hc
  obtain ⟨hword, hbehind⟩ := Text.takeWhile_dropWhile_append hall fun d hd =>
    isWordChar_of_isSome_ofMark? (hrest d hd)
  rw [hs, List.cons_append, readAll?, hmark]
  simp only [if_neg hquote]
  rw [hword, hbehind, ← hs, String.ofList_toList]

/-- A quoted text is read back in front of a mark. -/
theorem readAll?_quoted (s : String) :
    readAll? (Quoted.render s.toList ++ rest) = (readAll? rest).map (.quoted s :: ·) := by
  have hquote : rest.head? ≠ some Quoted.quote := by
    intro h
    exact absurd (hrest _ h) (by decide)
  have hread := Quoted.readInside_double s.toList hquote
  have hmark : ofMark? Quoted.quote = none := by decide
  rw [Quoted.render, List.cons_append, List.append_assoc, List.singleton_append, readAll?, hmark]
  simp only [if_pos]
  split
  · next h =>
    rw [hread] at h
    cases h
    rw [String.ofList_toList]
  · next h =>
    rw [hread] at h
    cases h

end

/-- A token is read back if it is a mark or a mark follows. -/
theorem readAll?_chars_append {t : Token} (ht : t.IsProper) {rest : List Char}
    (hrest : t.isMark ∨ ∀ c ∈ rest.head?, (ofMark? c).isSome) :
    readAll? (t.chars ++ rest) = (readAll? rest).map (t :: ·) := by
  cases t with
  | word w => exact readAll?_word (hrest.resolve_left Bool.false_ne_true) ht
  | quoted s => exact readAll?_quoted (hrest.resolve_left Bool.false_ne_true) s
  | space | comma | leftParen | rightParen => simp [chars, readAll?, ofMark?]

/-- Tokens are read back from their characters if one of any two neighbours is a mark. -/
theorem readAll?_flatMap_chars {ts : List Token} (hproper : ∀ t ∈ ts, t.IsProper)
    (hadjoin : ts.IsChain Adjoins) : readAll? (ts.flatMap chars) = some ts := by
  induction ts with
  | nil => rw [List.flatMap_nil, readAll?]
  | cons t ts ih =>
    obtain ⟨ht, hts⟩ := List.forall_mem_cons.1 hproper
    have hrest : t.isMark ∨ ∀ c ∈ (ts.flatMap chars).head?, (ofMark? c).isSome := by
      cases ts with
      | nil => exact .inr nofun
      | cons u ts =>
        exact (List.isChain_cons_cons.1 hadjoin).1.imp id fun h => isSome_ofMark?_of_isMark h _
    rw [List.flatMap_cons, readAll?_chars_append ht hrest, ih hts hadjoin.tail, Option.map_some]

/-! ## Neighbours -/

/-- A mark stands in front of any token. -/
theorem isChain_cons_of_isMark {t : Token} {ts : List Token} (ht : t.isMark)
    (hts : ts.IsChain Adjoins) : (t :: ts).IsChain Adjoins :=
  List.isChain_cons.2 ⟨fun _ _ => .inl ht, hts⟩

/-- Any token stands in front of a mark. -/
theorem isChain_append_of_isMark {t : Token} {ts us : List Token} (ht : t.isMark)
    (hts : ts.IsChain Adjoins) (hus : (t :: us).IsChain Adjoins) :
    (ts ++ t :: us).IsChain Adjoins := by
  refine List.isChain_append.2 ⟨hts, hus, fun _ _ u hu => ?_⟩
  cases hu
  exact .inr ht

end Token

/-! ## Literals as tokens -/

namespace Literal

/-- A number stands as a word and a text as a quoted text. -/
def token : Literal → Token
  | .text s => .quoted s
  | number => .word number.render

/-- The token of a literal has the characters of the literal. -/
@[simp] theorem chars_token (l : Literal) : l.token.chars = l.render.toList := by
  cases l with
  | integer | unsigned | float => rfl
  | text s => exact (String.toList_ofList (l := Quoted.render s.toList)).symm

/-- The token of a literal has the text of the literal. -/
theorem text_token (l : Literal) : l.token.text = l.render := by
  rw [Token.text, chars_token, String.ofList_toList]

/-- No literal is a mark. -/
@[simp] theorem isMark_token (l : Literal) : l.token.isMark = false := by
  cases l <;> rfl

/-- The characters of numbers are characters of words. -/
theorem isWordChar_of_isNumberChar {c : Char} (h : isNumberChar c) : isWordChar c := by
  have hmarks : [' ', ',', '(', ')', Quoted.quote].any isNumberChar = false := by decide
  have hne : ∀ d ∈ [' ', ',', '(', ')', Quoted.quote], c ≠ d := by
    rintro d hd rfl
    exact List.any_eq_false.1 hmarks c hd h
  simp only [List.forall_mem_cons] at hne
  simp [isWordChar, hne]

/-- A number is a word. -/
theorem isWord_render {l : Literal} (h : l.isNumeric) : IsWord l.render :=
  ⟨render_ne_nil h, fun _ hc => isWordChar_of_isNumberChar (isNumberChar_of_mem_render h hc)⟩

/-- The token of a literal is read back as one token. -/
theorem isProper_token (l : Literal) : l.token.IsProper := by
  cases l with
  | integer | unsigned | float => exact isWord_render rfl
  | text => trivial

end Literal

end ODataSession
