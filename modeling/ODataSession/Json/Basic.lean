/-!
# JSON values

JSON values whose objects keep their members in order, repeated names included, and whose numbers
keep what was written: a whole part, the digits behind the point and an exponent.
-/

namespace ODataSession

/-- A JSON number as it is written. -/
structure Numeral where
  negative : Bool
  whole : Nat
  /-- The digits behind the point; none where there is no point. -/
  fraction : List Char
  exponent : Option Int
  deriving DecidableEq, Repr, Inhabited

namespace Numeral

/-- A natural number. -/
def ofNat (n : Nat) : Numeral := ⟨false, n, [], none⟩

/-- The value of a number that is written without sign, point and exponent. -/
def natural? (n : Numeral) : Option Nat :=
  if !n.negative && n.fraction.isEmpty && n.exponent.isNone then some n.whole else none

/-- The value of a number that is written without point and exponent. -/
def integer? (n : Numeral) : Option Int :=
  if n.fraction.isEmpty && n.exponent.isNone then
    some (if n.negative then -(n.whole : Int) else n.whole)
  else none

end Numeral

/-- A JSON value. -/
inductive Json
  | null
  | bool (b : Bool)
  | number (n : Numeral)
  | string (s : String)
  | array (items : List Json)
  | object (members : List (String × Json))
  deriving Inhabited

namespace Json

/-- A natural number as a JSON number. -/
def ofNat (n : Nat) : Json := .number (.ofNat n)

/-- The last member of an object with a name. -/
def member? (name : String) : Json → Option Json
  | .object members => members.reverse.lookup name
  | _ => none

end Json

end ODataSession
