import ODataSession.Query.Literal

/-!
# Filter expressions

One condition of a filter chain. A condition on one value is written bare or as a call; a range
and a set are written as a group between parentheses, so that the words inside the group cannot
regroup with the words that join the chain. `Condition.render` gives the text of a condition and
does not depend on how it is joined to its neighbours; `FilterExpr` adds that join.
-/

namespace ODataSession

/-- The word between two conditions. -/
inductive Join
  | and
  | or
  deriving DecidableEq, Repr, Inhabited

/-- The keyword of a join. -/
def Join.keyword : Join → String
  | .and => "and"
  | .or => "or"

/-- A comparison of a field with one value. -/
inductive Comparison
  | equal
  | notEqual
  | greaterThan
  | greaterOrEqual
  | lessThan
  | lessOrEqual
  deriving DecidableEq, Repr, Inhabited

/-- The keyword of a comparison. -/
def Comparison.keyword : Comparison → String
  | .equal => "eq"
  | .notEqual => "ne"
  | .greaterThan => "gt"
  | .greaterOrEqual => "ge"
  | .lessThan => "lt"
  | .lessOrEqual => "le"

/-- A function of a field and one value. -/
inductive StringFunction
  | contains
  | startsWith
  | endsWith
  deriving DecidableEq, Repr, Inhabited

/-- The keyword of a string function. -/
def StringFunction.keyword : StringFunction → String
  | .contains => "contains"
  | .startsWith => "startswith"
  | .endsWith => "endswith"

/-- A condition on a record. -/
inductive Condition
  | compare (field : String) (comparison : Comparison) (value : Literal)
  | call (function : StringFunction) (field : String) (value : Literal)
  | between (field : String) (low high : Literal)
  | inSet (field : String) (values : List Literal)
  | notInSet (field : String) (values : List Literal)
  /-- A fragment that is written as it stands. -/
  | raw (fragment : String)
  deriving BEq, Inhabited

namespace Condition

/-- A comparison in words: the field, the keyword and the value. -/
def comparisonText (field : String) (comparison : Comparison) (value : Literal) : String :=
  field ++ " " ++ comparison.keyword ++ " " ++ value.render

/-- A comparison of one field with each of several values, joined by one word, as a group. -/
def groupText (field : String) (comparison : Comparison) (join : Join) (values : List Literal) :
    String :=
  "(" ++ (" " ++ join.keyword ++ " ").intercalate (values.map (comparisonText field comparison)) ++
    ")"

/-- The text of a condition. -/
def render : Condition → String
  | .compare field comparison value => comparisonText field comparison value
  | .call function field value => function.keyword ++ "(" ++ field ++ ", " ++ value.render ++ ")"
  | .between field low high =>
    "(" ++ comparisonText field .greaterOrEqual low ++ " and " ++
      comparisonText field .lessOrEqual high ++ ")"
  | .inSet field values => groupText field .equal .or values
  | .notInSet field values => groupText field .notEqual .and values
  | .raw fragment => fragment

end Condition

/-- A condition and the word that joins it to the one before it, if there is one. -/
structure FilterExpr where
  condition : Condition
  join : Option Join
  deriving BEq, Inhabited

namespace FilterExpr

/-- A condition that is not joined to anything yet. -/
def ofCondition (c : Condition) : FilterExpr :=
  ⟨c, none⟩

/-- The same condition under another join. -/
def withJoin (e : FilterExpr) (join : Option Join) : FilterExpr :=
  { e with join }

/-- The text of the condition alone. -/
def render (e : FilterExpr) : String :=
  e.condition.render

section
variable {α : Type} [ToLiteral α] (field : String)

/-- The field equals the value. -/
def equal (value : α) : FilterExpr := ofCondition (.compare field .equal (toLiteral value))

/-- The field differs from the value. -/
def notEqual (value : α) : FilterExpr := ofCondition (.compare field .notEqual (toLiteral value))

/-- The field is greater than the value. -/
def greaterThan (value : α) : FilterExpr :=
  ofCondition (.compare field .greaterThan (toLiteral value))

/-- The field is greater than the value or equals it. -/
def greaterOrEqual (value : α) : FilterExpr :=
  ofCondition (.compare field .greaterOrEqual (toLiteral value))

/-- The field is less than the value. -/
def lessThan (value : α) : FilterExpr := ofCondition (.compare field .lessThan (toLiteral value))

/-- The field is less than the value or equals it. -/
def lessOrEqual (value : α) : FilterExpr :=
  ofCondition (.compare field .lessOrEqual (toLiteral value))

/-- The field holds the value somewhere. -/
def contains (value : α) : FilterExpr := ofCondition (.call .contains field (toLiteral value))

/-- The field starts with the value. -/
def startsWith (value : α) : FilterExpr := ofCondition (.call .startsWith field (toLiteral value))

/-- The field ends with the value. -/
def endsWith (value : α) : FilterExpr := ofCondition (.call .endsWith field (toLiteral value))

/-- The field lies between two values, both included. -/
def between (low high : α) : FilterExpr :=
  ofCondition (.between field (toLiteral low) (toLiteral high))

/-- The field equals one of the values. -/
def inSet (values : List α) : FilterExpr := ofCondition (.inSet field (values.map toLiteral))

/-- The field differs from each of the values. -/
def notInSet (values : List α) : FilterExpr := ofCondition (.notInSet field (values.map toLiteral))

end

/-- A fragment that is written as it stands. -/
def raw (fragment : String) : FilterExpr := ofCondition (.raw fragment)

end FilterExpr

end ODataSession
