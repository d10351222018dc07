import ODataSession.Url.Basic

/-!
# Form-encoded queries

Names and values appended to the query of a URL in the form of web forms: letters, digits and
`* - . _` stand for themselves, a space is a plus sign, and all else is escaped.
-/

namespace ODataSession.Url

/-- The characters that stand for themselves in a form. -/
def keptInForm (c : Char) : Bool :=
  c.isAlphanum || c = '*' || c = '-' || c = '.' || c = '_'

/-- A name or a value in a form. -/
def formComponent (s : List Char) : List Char :=
  (Percent.encode (fun c => keptInForm c || c = ' ') s).map fun c => if c = ' ' then '+' else c

/-- A name and its value in a form. -/
def formPair : String × String → List Char
  | (name, value) => formComponent name.toList ++ '=' :: formComponent value.toList

/-- Names and values in a form, with `&` between them. -/
def formText (pairs : List (String × String)) : List Char :=
  ['&'].intercalate (pairs.map formPair)

/-- Appends names and values to the query. A URL whose query is empty then has none. -/
def appendForm (u : Url) (pairs : List (String × String)) : Url :=
  let before := u.query.getD []
  let query :=
    if before.isEmpty then formText pairs
    else if pairs.isEmpty then before
    else before ++ '&' :: formText pairs
  { u with query := if query.isEmpty then none else some query }

end ODataSession.Url
