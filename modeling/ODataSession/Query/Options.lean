import ODataSession.Query.Operator
import ODataSession.Query.Parameters

/-!
# Query options

What a query asks for: the fields it selects, a chain of conditions, an order, and a window of
records. Each facet has its own builder functions, and they do not interfere: selecting again
replaces the fields, `top` and `skip` replace their numbers, conditions and ordering clauses
accumulate. `toParameters` writes the facets that are set, in a fixed order of names.
-/

namespace ODataSession

/-- The options of a query. -/
structure ODataQuery where
  selected : List String
  filters : List FilterExpr
  ordering : List (String × SortDirection)
  limit : Option UInt64
  offset : Option UInt64
  deriving BEq, Inhabited

namespace ODataQuery

/-- The query without options. -/
def empty : ODataQuery := ⟨[], [], [], none, none⟩

/-- Replaces the selected fields. -/
def select (q : ODataQuery) (fields : List String) : ODataQuery :=
  { q with selected := fields }

/-- Appends an expression to the chain. The place in the chain decides the join, whatever join the
expression had elsewhere: the first expression has none. -/
def append (q : ODataQuery) (expr : FilterExpr) (join : Join) : ODataQuery :=
  { q with
    filters := q.filters ++ [expr.withJoin (if q.filters.isEmpty then none else some join)] }

/-- Appends an expression joined with `and`. -/
def whereExpr (q : ODataQuery) (expr : FilterExpr) : ODataQuery :=
  q.append expr .and

/-- Appends an expression joined with `or`. -/
def orWhereExpr (q : ODataQuery) (expr : FilterExpr) : ODataQuery :=
  q.append expr .or

section
variable {α : Type} [ToLiteral α]

/-- Appends an equality joined with `and`. -/
def whereEq (q : ODataQuery) (field : String) (value : α) : ODataQuery :=
  q.whereExpr (.equal field value)

/-- Appends an equality joined with `or`. -/
def orWhereEq (q : ODataQuery) (field : String) (value : α) : ODataQuery :=
  q.orWhereExpr (.equal field value)

end

/-- The expression of an operator that is given by name. -/
def named (field operator : String) (operand : Operand) : Except QueryError FilterExpr := do
  (← Operator.parse operator).apply field operand

/-- Appends an expression of a named operator joined with `and`. -/
def whereOp (q : ODataQuery) (field operator : String) (operand : Operand) :
    Except QueryError ODataQuery := do
  return q.whereExpr (← named field operator operand)

/-- Appends an expression of a named operator joined with `or`. -/
def orWhereOp (q : ODataQuery) (field operator : String) (operand : Operand) :
    Except QueryError ODataQuery := do
  return q.orWhereExpr (← named field operator operand)

/-- Appends an ordering clause. -/
def orderBy (q : ODataQuery) (field : String) (direction : SortDirection) : ODataQuery :=
  { q with ordering := q.ordering ++ [(field, direction)] }

/-- Appends an ascending ordering clause. -/
def orderByAsc (q : ODataQuery) (field : String) : ODataQuery :=
  q.orderBy field .asc

/-- Appends a descending ordering clause. -/
def orderByDesc (q : ODataQuery) (field : String) : ODataQuery :=
  q.orderBy field .desc

/-- Limits the number of records; zero is a limit too. -/
def top (q : ODataQuery) (n : UInt64) : ODataQuery :=
  { q with limit := some n }

/-- Skips records; zero is written too. -/
def skip (q : ODataQuery) (n : UInt64) : ODataQuery :=
  { q with offset := some n }

/-- A later expression of a chain, behind the word that joins it. -/
def joinedText (expr : FilterExpr) : String :=
  " " ++ (expr.join.getD .and).keyword ++ " " ++ expr.render

/-- The text of the chain, if it has any expression. -/
def filterText? (q : ODataQuery) : Option String :=
  match q.filters with
  | [] => none
  | first :: rest => some (first.render ++ String.join (rest.map joinedText))

/-- An ordering clause: the field and the direction. -/
def orderingText : String × SortDirection → String
  | (field, direction) => field ++ " " ++ direction.keyword

/-- The selected fields as one text, if there are any. -/
def selectText? (q : ODataQuery) : Option String :=
  if q.selected.isEmpty then none else some (",".intercalate q.selected)

/-- The ordering clauses as one text, if there are any. -/
def orderText? (q : ODataQuery) : Option String :=
  if q.ordering.isEmpty then none else some (",".intercalate (q.ordering.map orderingText))

/-- The facets under their names, each with its value if it is set. -/
def facets (q : ODataQuery) : List (String × Option ParameterValue) :=
  [("$select", q.selectText?.map .text),
   ("$filter", q.filterText?.map .text),
   ("$orderby", q.orderText?.map .text),
   ("$top", q.limit.map .integer),
   ("$skip", q.offset.map .integer)]

/-- The facets that are set, as parameters. -/
def toParameters (q : ODataQuery) : QueryParameters :=
  .ofList (q.facets.filterMap fun (key, value?) => value?.map fun value => (key, value))

end ODataQuery

end ODataSession
