/-!
# Query errors

What can be wrong with an operator, its operand or a sort direction, and the text that says so.
-/

namespace ODataSession

/-- Why an operator, an operand or a sort direction was refused. -/
inductive QueryError
  /-- No operator has this spelling; the spelling is in lower case. -/
  | unsupportedOperator (spelling : String)
  /-- A range was given another number of values than two. -/
  | invalidBetween (found : Nat)
  /-- A set operator was given a single value. -/
  | expectedList (operator : String)
  /-- An operator on single values was given a list. -/
  | expectedScalar (operator : String)
  /-- No sort direction has this spelling. -/
  | invalidDirection (spelling : String)
  deriving DecidableEq, Repr, Inhabited

/-- The text shown for an error. -/
def QueryError.message : QueryError → String
  | .unsupportedOperator spelling => s!"unsupported operator '{spelling}'"
  | .invalidBetween found =>
    s!"the value for the \"between\" operator must be a list of two elements, got {found}"
  | .expectedList operator => s!"operator '{operator}' requires a list of values"
  | .expectedScalar operator => s!"operator '{operator}' requires a single value, got a list"
  | .invalidDirection spelling =>
    s!"invalid sort direction '{spelling}', expected 'asc' or 'desc'"

end ODataSession
