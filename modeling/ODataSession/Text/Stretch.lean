import ODataSession.Text.Ascii
import ODataSession.Text.Blank
import ODataSession.Text.Percent
import ODataSession.Text.Split

/-!
# Stretches of characters

A table of characters is a list of stretches, each with what the table knows of its characters. It
is written as a text of words: a word starts with the number of its only character, or with those of
the first and the last with a hyphen between them, in hexadecimal digits; the rest of the word is a
note that the table reads in its own way.
-/

namespace ODataSession.Text

/-- The characters from one number to another, and what a table knows of them. -/
structure Stretch (α : Type) where
  first : Nat
  last : Nat
  value : α
  deriving Repr, Inhabited

/-- Whether a character lies in a stretch. -/
def Stretch.holds {α : Type} (s : Stretch α) (c : Char) : Bool :=
  s.first ≤ c.toNat && c.toNat ≤ s.last

/-! ## Reading tables -/

/-- Puts a word in front of others, unless it is empty. -/
def consWord (word : List Char) (words : List (List Char)) : List (List Char) :=
  if word.isEmpty then words else word :: words

/-- The words of a text. -/
def wordsOf (s : List Char) : List (List Char) :=
  let (word, words) := s.foldr
    (fun c (word, words) => if isBlank c then ([], consWord word words) else (c :: word, words))
    ([], [])
  consWord word words

/-- Cuts a hexadecimal number off the front of a text and puts its digits behind `high`. -/
def cutHex (high : Nat) : List Char → Nat × List Char
  | [] => (high, [])
  | c :: rest =>
    match Percent.hexValue? c with
    | some d => cutHex (high * 16 + d) rest
    | none => (high, c :: rest)

/-- Cuts the ends of a stretch off the front of a word. -/
def cutEnds (word : List Char) : Nat × Nat × List Char :=
  match cutHex 0 word with
  | (first, '-' :: rest) => (first, cutHex 0 rest)
  | (only, note) => (only, only, note)

/-- The stretches that a text writes down, with the values of their notes. -/
def stretches {α : Type} (value? : List Char → Option α) (text : String) : List (Stretch α) :=
  (wordsOf text.toList).filterMap fun word =>
    let (first, last, note) := cutEnds word
    (value? note).map fun value => ⟨first, last, value⟩

/-- The stretches that a text writes down without notes. -/
def stretchesOf (text : String) : List (Stretch Unit) :=
  stretches (fun note => if note.isEmpty then some () else none) text

/-- The characters whose numbers stand with dots between them. -/
def charactersOf (s : List Char) : List Char :=
  if s.isEmpty then []
  else (splitOn (· = '.') s).map fun digits => Char.ofNat (cutHex 0 digits).1

/-- The note of a class of characters that are written behind an equals sign. -/
def characters? : List Char → Option (List Char)
  | '=' :: rest => some (charactersOf rest)
  | _ => none

/-- The note of a number that is written behind an equals sign in decimal digits. -/
def decimal? : List Char → Option Nat
  | '=' :: digits => some (Nat.ofDigitChars 10 digits 0)
  | _ => none

/-! ## Looking up -/

/-- What a table knows of a character. -/
def valueOf? {α : Type} (table : List (Stretch α)) (c : Char) : Option α :=
  (table.find? (·.holds c)).map (·.value)

/-- Whether a table holds a character. -/
def isListed {α : Type} (table : List (Stretch α)) (c : Char) : Bool :=
  table.any (·.holds c)

end ODataSession.Text
