/-!
# Quoted text

A quoted text stands between single quotes, and a single quote inside it is written twice.
`render` writes that form. `read?` reads one quoted text off the front of a text and stops at the
first quote that no second quote follows.
-/

namespace ODataSession.Quoted

/-- The single quote. -/
def quote : Char := '\x27'

/-- A text with every single quote written twice. -/
def double : List Char → List Char
  | [] => []
  | c :: rest => if c = quote then quote :: quote :: double rest else c :: double rest

/-- A text between single quotes, with the quotes inside it doubled. -/
def render (s : List Char) : List Char :=
  quote :: (double s ++ [quote])

/-- Reads the inside of a quoted text up to its closing quote. -/
def readInside : List Char → Option (List Char × List Char)
  | [] => none
  | [c] => if c = quote then some ([], []) else none
  | c :: d :: rest =>
    if c = quote then
      if d = quote then (readInside rest).map fun (s, r) => (quote :: s, r)
      else some ([], d :: rest)
    else (readInside (d :: rest)).map fun (s, r) => (c :: s, r)

/-- Reads one quoted text off the front; the second part is what follows it. -/
def read? : List Char → Option (List Char × List Char)
  | [] => none
  | c :: rest => if c = quote then readInside rest else none

end ODataSession.Quoted
