import ODataSession.Text.Composition.Table

/-!
# Composition

The composed form of a text, in which a letter and its marks are one character wherever there is
such a character. `compose` splits every character into its parts, puts the marks behind a letter
into the order of their classes, and then draws together, from the left, each pair that has one
character. A mark joins its letter only if no mark of its own class or a higher one stands between
them. The syllables of Hangul follow from the numbers of their parts.

The characters that have parts but are never composed from them are left out of the tables: a domain
replaces them by their parts before it comes here.
-/

namespace ODataSession.Text

/-- The combining class of a character; the characters that marks lean on have class zero. -/
def combiningClass (c : Char) : Nat :=
  if isAscii c then 0 else (valueOf? combiningClasses c).getD 0

/-! ## Syllables of Hangul -/

/-- The parts of a syllable: a leading consonant, a vowel and perhaps a trailing consonant. -/
def syllableParts? (c : Char) : Option (List Char) :=
  let n := c.toNat - 0xac00
  if c.toNat < 0xac00 || 0xd7a3 < c.toNat then none
  else
    let pair := [Char.ofNat (0x1100 + n / 588), Char.ofNat (0x1161 + n % 588 / 28)]
    some (if n % 28 = 0 then pair else pair ++ [Char.ofNat (0x11a7 + n % 28)])

/-- The syllable of a leading consonant and a vowel, or of a syllable that ends in a vowel and a
trailing consonant. -/
def composeSyllable? (a b : Char) : Option Char :=
  let x := a.toNat
  let y := b.toNat
  if 0x1100 ≤ x && x ≤ 0x1112 && 0x1161 ≤ y && y ≤ 0x1175 then
    some (Char.ofNat (0xac00 + ((x - 0x1100) * 21 + (y - 0x1161)) * 28))
  else if 0xac00 ≤ x && x ≤ 0xd7a3 && (x - 0xac00) % 28 = 0 && 0x11a8 ≤ y && y ≤ 0x11c2 then
    some (Char.ofNat (x + (y - 0x11a7)))
  else none

/-! ## Pairs -/

/-- The parts of a character, by a table in which a whole stands before its parts. -/
def partsIn : List Composite → Char → List Char
  | [], c => [c]
  | p :: rest, c => if c = p.whole then partsIn rest p.first ++ [p.second] else partsIn rest c

/-- The parts of a character, and the character itself if it has none. -/
def partsOf (c : Char) : List Char :=
  if isAscii c then [c] else (syllableParts? c).getD (partsIn composites c)

/-- The character that stands for a pair. -/
def composePair? (a b : Char) : Option Char :=
  match composeSyllable? a b with
  | some c => some c
  | none => (composites.find? fun p => p.first = a && p.second = b).map (·.whole)

/-! ## Order and composition -/

/-- A character with its combining class. -/
abbrev Classed := Char × Nat

/-- Puts a character in front of a text in order: it moves behind the marks of lower classes. -/
def insertClassed (c : Classed) : List Classed → List Classed
  | [] => [c]
  | d :: rest => if 0 < d.2 && d.2 < c.2 then d :: insertClassed c rest else c :: d :: rest

/-- Puts the marks behind each letter into the order of their classes; marks of one class keep
theirs. -/
def orderMarks (s : List Classed) : List Classed :=
  s.foldr insertClassed []

/-- Whether no mark between a letter and a character of a class keeps them apart; the marks come
last first. -/
def reaches (between : List Classed) (n : Nat) : Bool :=
  between.head?.all fun mark => mark.2 < n

/-- Draws a letter together with what follows it; the marks between that stay come last first. -/
def composeBehind (letter : Char) (between : List Classed) : List Classed → List Char
  | [] => letter :: between.reverse.map (·.1)
  | (c, n) :: rest =>
    match if reaches between n then composePair? letter c else none with
    | some whole => composeBehind whole between rest
    | none =>
      if n = 0 then letter :: (between.reverse.map (·.1) ++ composeBehind c [] rest)
      else composeBehind letter ((c, n) :: between) rest

/-- Draws letters and marks together; marks in front of the first letter stay. -/
def composeClassed : List Classed → List Char
  | [] => []
  | (c, n) :: rest => if n = 0 then composeBehind c [] rest else c :: composeClassed rest

/-- The composed form of a text; a text of ASCII is composed already. -/
def compose (s : List Char) : List Char :=
  if s.all isAscii then s
  else composeClassed (orderMarks ((s.flatMap partsOf).map fun c => (c, combiningClass c)))

end ODataSession.Text
