import ODataSession.Query.Error
import ODataSession.Query.Filter

/-!
# Operators by name

The operators that a filter can be built from by name. A keyword is read without regard to ASCII
case, and the comparisons have symbols beside their keywords. `Operator.apply` checks that the
operand fits the operator: a range takes exactly two values, a set takes a list, and every other
operator takes a single value.
-/

namespace ODataSession

/-- An operator of the named form of a condition. -/
inductive Operator
  | equal
  | notEqual
  | greaterThan
  | greaterOrEqual
  | lessThan
  | lessOrEqual
  | contains
  | startsWith
  | endsWith
  | inSet
  | notInSet
  | between
  deriving DecidableEq, Repr, Inhabited

namespace Operator

/-- The keyword of an operator. -/
def keyword : Operator → String
  | .equal => "eq"
  | .notEqual => "ne"
  | .greaterThan => "gt"
  | .greaterOrEqual => "ge"
  | .lessThan => "lt"
  | .lessOrEqual => "le"
  | .contains => "contains"
  | .startsWith => "startswith"
  | .endsWith => "endswith"
  | .inSet => "in"
  | .notInSet => "notin"
  | .between => "between"

/-- The operator that a spelling in lower case denotes. -/
def ofSpelling? : String → Option Operator
  | "=" | "eq" => some .equal
  | "!=" | "ne" => some .notEqual
  | ">" | "gt" => some .greaterThan
  | ">=" | "ge" => some .greaterOrEqual
  | "<" | "lt" => some .lessThan
  | "<=" | "le" => some .lessOrEqual
  | "contains" => some .contains
  | "startswith" => some .startsWith
  | "endswith" => some .endsWith
  | "in" => some .inSet
  | "notin" => some .notInSet
  | "between" => some .between
  | _ => none

/-- Reads an operator without regard to ASCII case. -/
def parse (s : String) : Except QueryError Operator :=
  match ofSpelling? s.toLower with
  | some operator => .ok operator
  | none => .error (.unsupportedOperator s.toLower)

/-- The condition of an operator on one value; a range and a set have none. -/
def onScalar? (operator : Operator) (field : String) (value : Literal) : Option Condition :=
  match operator with
  | .equal => some (.compare field .equal value)
  | .notEqual => some (.compare field .notEqual value)
  | .greaterThan => some (.compare field .greaterThan value)
  | .greaterOrEqual => some (.compare field .greaterOrEqual value)
  | .lessThan => some (.compare field .lessThan value)
  | .lessOrEqual => some (.compare field .lessOrEqual value)
  | .contains => some (.call .contains field value)
  | .startsWith => some (.call .startsWith field value)
  | .endsWith => some (.call .endsWith field value)
  | .inSet | .notInSet | .between => none

/-- The expression that an operator denotes on a field and an operand. -/
def apply (operator : Operator) (field : String) : Operand → Except QueryError FilterExpr
  | .list values =>
    match operator, values with
    | .between, [low, high] => .ok (.between field low high)
    | .between, values => .error (.invalidBetween values.length)
    | .inSet, values => .ok (.inSet field values)
    | .notInSet, values => .ok (.notInSet field values)
    | operator, _ => .error (.expectedScalar operator.keyword)
  | .scalar value =>
    match operator.onScalar? field value with
    | some condition => .ok (.ofCondition condition)
    | none =>
      if operator = .between then .error (.invalidBetween 1)
      else .error (.expectedList operator.keyword)

end Operator

/-- The direction of an ordering clause. -/
inductive SortDirection
  | asc
  | desc
  deriving DecidableEq, Repr, Inhabited

namespace SortDirection

/-- The keyword of a direction. -/
def keyword : SortDirection → String
  | .asc => "asc"
  | .desc => "desc"

/-- Ascending order is the one taken where none is named. -/
def standard : SortDirection := .asc

/-- Reads a direction without regard to ASCII case; the error shows it as it was given. -/
def parse (s : String) : Except QueryError SortDirection :=
  match s.toLower with
  | "asc" => .ok .asc
  | "desc" => .ok .desc
  | _ => .error (.invalidDirection s)

end SortDirection

end ODataSession
