import ODataSession.Json.Printer
import ODataSession.Text.Percent

/-!
# Query parameters

An ordered set of named values. A name occurs once: setting it again changes its value and keeps
its place. A set is sent as a query string, `encode`, and is written as a JSON object, `json`; both
keep the order.
-/

namespace ODataSession

/-- The value of a parameter. -/
inductive ParameterValue
  | text (s : String)
  | integer (n : UInt64)
  deriving DecidableEq, Repr, Inhabited

namespace ParameterValue

/-- The value as text. -/
def render : ParameterValue → String
  | .text s => s
  | .integer n => toString n.toNat

/-- The value as a JSON string or a JSON number. -/
def toJson : ParameterValue → Json
  | .text s => .string s
  | .integer n => .ofNat n.toNat

end ParameterValue

/-- Named values in the order in which the names were first set. -/
structure QueryParameters where
  entries : List (String × ParameterValue)
  deriving DecidableEq, Repr, Inhabited

namespace QueryParameters

/-- No parameters. -/
def empty : QueryParameters := ⟨[]⟩

/-- Sets a name in a list of named values: in its place if it is there, else at the end. -/
def set (key : String) (value : ParameterValue) :
    List (String × ParameterValue) → List (String × ParameterValue)
  | [] => [(key, value)]
  | (k, v) :: rest => if k = key then (k, value) :: rest else (k, v) :: set key value rest

/-- Sets a parameter. -/
def insert (p : QueryParameters) (key : String) (value : ParameterValue) : QueryParameters :=
  ⟨set key value p.entries⟩

/-- Sets each of the named values in turn. -/
def ofList (pairs : List (String × ParameterValue)) : QueryParameters :=
  pairs.foldl (fun p (key, value) => p.insert key value) empty

/-- The value of a name. -/
def get? (p : QueryParameters) (key : String) : Option ParameterValue :=
  p.entries.lookup key

/-- Whether a name is set. -/
def contains (p : QueryParameters) (key : String) : Bool :=
  (p.get? key).isSome

/-- The number of names. -/
def size (p : QueryParameters) : Nat :=
  p.entries.length

/-- Whether no name is set. -/
def isEmpty (p : QueryParameters) : Bool :=
  p.entries.isEmpty

/-- The names in order. -/
def keys (p : QueryParameters) : List String :=
  p.entries.map Prod.fst

/-- The characters that stand for themselves in a query string: ASCII letters and digits and
`- . _ ~`. -/
def isUnreserved (c : Char) : Bool :=
  c.isAlphanum || c = '-' || c = '.' || c = '_' || c = '~'

/-- A name or a value with every reserved character escaped. -/
def encodeComponent (s : String) : List Char :=
  Percent.encode isUnreserved s.toList

/-- A name and its value as one part of a query string. -/
def encodeEntry : String × ParameterValue → List Char
  | (key, value) => encodeComponent key ++ '=' :: encodeComponent value.render

/-- The query string: every entry in order, with `&` between them. -/
def encode (p : QueryParameters) : String :=
  String.ofList (['&'].intercalate (p.entries.map encodeEntry))

/-- The set as a JSON object in the order of its names. -/
def toJson (p : QueryParameters) : Json :=
  .object (p.entries.map fun (key, value) => (key, value.toJson))

/-- The compact JSON text of the set. -/
def json (p : QueryParameters) : String :=
  p.toJson.compact

end QueryParameters

end ODataSession
