/-!
# HTTP headers

Headers as pairs of a name in lower case and a value. `Header.ofPair` takes a name in any case and
refuses what HTTP does not allow; the name is looked at first. In a list that stands for a set of
headers, `Headers.set` replaces the header of the same name, and `Headers.withMissing` adds headers
only where their names are not taken.
-/

namespace ODataSession.Http

/-- A header; its name is in lower case. -/
structure Header where
  name : String
  value : String
  deriving DecidableEq, Repr, Inhabited

/-- Why a name and a value are no header. -/
inductive HeaderError
  | invalidName (name : String)
  | invalidValue (name : String)
  deriving DecidableEq, Repr, Inhabited

/-- The text shown for an error; the name stands as it was given. -/
def HeaderError.message : HeaderError → String
  | .invalidName name => name ++ ": invalid HTTP header name"
  | .invalidValue name => name ++ ": failed to parse header value"

/-- The characters of a header name: ASCII letters, digits and some marks. -/
def isTokenChar (c : Char) : Bool :=
  c.isAlphanum || c = '!' || c = '#' || c = '$' || c = '%' || c = '&' || c = '\x27' || c = '*' ||
    c = '+' || c = '-' || c = '.' || c = '^' || c = '_' || c = '\x60' || c = '|' || c = '~'

/-- The length of the longest header name. -/
def longestName : Nat := 65535

/-- Whether a text is a header name. -/
def isHeaderName (name : List Char) : Bool :=
  !name.isEmpty && name.length ≤ longestName && name.all isTokenChar

/-- The characters that a header value may hold: no control but the tab. -/
def isValueChar (c : Char) : Bool :=
  (' ' ≤ c && c ≠ '\x7f') || c = '\t'

/-- Whether a text is a header value. -/
def isHeaderValue (value : List Char) : Bool :=
  value.all isValueChar

namespace Header

/-- The header of a name and a value. -/
def ofPair (name value : String) : Except HeaderError Header :=
  if !isHeaderName name.toList then .error (.invalidName name)
  else if !isHeaderValue value.toList then .error (.invalidValue name)
  else .ok ⟨name.toLower, value⟩

/-- The header that tells which content is wanted. -/
def accept (value : String) : Header := ⟨"accept", value⟩

/-- The header that tells what the content is. -/
def contentType (value : String) : Header := ⟨"content-type", value⟩

/-- The header that carries cookies. -/
def cookie (value : String) : Header := ⟨"cookie", value⟩

end Header

namespace Headers

/-- Sets a header: in the place of the one of the same name if there is one, else at the end. -/
def set : List Header → Header → List Header
  | [], h => [h]
  | g :: rest, h => if g.name = h.name then h :: rest else g :: set rest h

/-- Adds those headers whose names are not taken. -/
def withMissing (headers standing : List Header) : List Header :=
  headers ++ standing.filter fun d => headers.all fun h => h.name ≠ d.name

/-- The value of the first header of a name. -/
def value? (headers : List Header) (name : String) : Option String :=
  (headers.find? (·.name = name)).map (·.value)

end Headers

end ODataSession.Http
