/-!
# Blank space

White space in the sense of Unicode's `White_Space` property, and trimming by a class of
characters. `trimBy` drops the class at both ends and nothing in between; `trim` is its
instance at the blank characters.
-/

namespace ODataSession.Text

/-- The characters of Unicode's `White_Space` property. -/
def isBlank (c : Char) : Bool :=
  ('\t' ≤ c && c ≤ '\r') || c = ' ' || c = '\u0085' || c = '\u00a0' || c = '\u1680' ||
    ('\u2000' ≤ c && c ≤ '\u200a') || c = '\u2028' || c = '\u2029' || c = '\u202f' ||
    c = '\u205f' || c = '\u3000'

/-- Drops the characters of a class at both ends. -/
def trimBy (p : Char → Bool) (s : List Char) : List Char :=
  ((s.dropWhile p).reverse.dropWhile p).reverse

/-- Drops blank characters at both ends. -/
def trim (s : String) : String :=
  String.ofList (trimBy isBlank s.toList)

/-- A text is blank when it holds blank characters only. -/
def isBlankText (s : String) : Bool :=
  s.toList.all isBlank

end ODataSession.Text
