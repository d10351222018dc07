import Mathlib.Data.List.Induction
import ODataSession.Query.Options

/-!
# Building queries

A query is built by calls of builder functions, some of which replace what was there while others
add to it. What a call contributes is one of five things (`QueryCall.selection?` to
`QueryCall.offset?`), and it does not depend on the query. A built query is made up of the
contributions of its calls and of nothing else (`ODataQuery.build_eq`), by induction on the calls,
last call first.

A chain of conditions in particular is told from the calls that have appended to it. A join belongs
to the place in the chain and comes from the call, whatever join an expression had elsewhere
(`ODataQuery.build_chains`).
-/

namespace ODataSession

/-- A call of a builder function. -/
inductive QueryCall
  | select (fields : List String)
  | whereExpr (expr : FilterExpr)
  | orWhereExpr (expr : FilterExpr)
  | whereEq (field : String) (value : Literal)
  | orWhereEq (field : String) (value : Literal)
  | whereOp (field operator : String) (operand : Operand)
  | orWhereOp (field operator : String) (operand : Operand)
  | orderBy (field : String) (direction : SortDirection)
  | orderByAsc (field : String)
  | orderByDesc (field : String)
  | top (n : UInt64)
  | skip (n : UInt64)
  deriving Inhabited

namespace QueryCall

/-- Makes the call. -/
def make (q : ODataQuery) : QueryCall → Except QueryError ODataQuery
  | select fields => .ok (q.select fields)
  | whereExpr expr => .ok (q.whereExpr expr)
  | orWhereExpr expr => .ok (q.orWhereExpr expr)
  | whereEq field value => .ok (q.whereEq field value)
  | orWhereEq field value => .ok (q.orWhereEq field value)
  | whereOp field operator operand => q.whereOp field operator operand
  | orWhereOp field operator operand => q.orWhereOp field operator operand
  | orderBy field direction => .ok (q.orderBy field direction)
  | orderByAsc field => .ok (q.orderByAsc field)
  | orderByDesc field => .ok (q.orderByDesc field)
  | top n => .ok (q.top n)
  | skip n => .ok (q.skip n)

/-- The query behind a call; one that fails leaves the query as it was. -/
def run (q : ODataQuery) (call : QueryCall) : ODataQuery :=
  (call.make q).toOption.getD q

/-! ## What calls contribute -/

/-- The fields that a call selects. -/
def selection? : QueryCall → Option (List String)
  | select fields => some fields
  | _ => none

/-- The expression that a call appends to the chain, and the word that the call stands for. -/
def appended? : QueryCall → Option (Join × FilterExpr)
  | whereExpr expr => some (.and, expr)
  | orWhereExpr expr => some (.or, expr)
  | whereEq field value => some (.and, .equal field value)
  | orWhereEq field value => some (.or, .equal field value)
  | whereOp field operator operand =>
    (ODataQuery.named field operator operand).toOption.map (.and, ·)
  | orWhereOp field operator operand =>
    (ODataQuery.named field operator operand).toOption.map (.or, ·)
  | _ => none

/-- The ordering clause that a call appends. -/
def clause? : QueryCall → Option (String × SortDirection)
  | orderBy field direction => some (field, direction)
  | orderByAsc field => some (field, .asc)
  | orderByDesc field => some (field, .desc)
  | _ => none

/-- The number of records that a call limits the query to. -/
def limit? : QueryCall → Option UInt64
  | top n => some n
  | _ => none

/-- The number of records that a call skips. -/
def offset? : QueryCall → Option UInt64
  | skip n => some n
  | _ => none

/-- The fields that calls have selected last; there are none if they have selected nothing. -/
def selectedBy (calls : List QueryCall) : List String :=
  (calls.filterMap selection?).getLast?.getD []

end QueryCall

namespace ODataQuery

/-- The query that calls build from nothing. -/
def build (calls : List QueryCall) : ODataQuery :=
  calls.foldl QueryCall.run empty

/-- The chain of expressions that are appended one after the other. -/
def chain : List (Join × FilterExpr) → List FilterExpr
  | [] => []
  | (_, first) :: rest => first.withJoin none :: rest.map fun (join, expr) => expr.withJoin join

/-- An expression that is appended to the query, if there is one. -/
def append? (q : ODataQuery) : Option (Join × FilterExpr) → ODataQuery
  | some (join, expr) => q.append expr join
  | none => q

variable (q : ODataQuery)

/-- What is appended goes to the chain. -/
theorem append?_eq (appended? : Option (Join × FilterExpr)) :
    q.append? appended? = { q with filters := (q.append? appended?).filters } := by
  cases appended? <;> rfl

/-- An expression is appended if there is one, and otherwise the query stays. -/
theorem toOption_append (expr : Except QueryError FilterExpr) (join : Join) :
    (do return q.append (← expr) join : Except QueryError ODataQuery).toOption.getD q =
      q.append? (expr.toOption.map (join, ·)) := by
  cases expr <;> rfl

/-- A call does to a query what it contributes. -/
theorem run_eq (call : QueryCall) : call.run q =
    { selected := call.selection?.getD q.selected
      filters := (q.append? call.appended?).filters
      ordering := q.ordering ++ call.clause?.toList
      limit := call.limit?.or q.limit
      offset := call.offset?.or q.offset } := by
  -- the equation of every call that speaks of the chain, with no clause added to the ordering
  have hchain : ∀ appended?, q.append? appended? =
      { q with filters := (q.append? appended?).filters, ordering := q.ordering ++ [] } := by
    intro appended?
    rw [List.append_nil]
    exact q.append?_eq appended?
  cases call with
  | whereExpr expr => exact hchain (some (.and, expr))
  | orWhereExpr expr => exact hchain (some (.or, expr))
  | whereEq field value => exact hchain (some (.and, .equal field value))
  | orWhereEq field value => exact hchain (some (.or, .equal field value))
  | whereOp => exact (q.toOption_append _ .and).trans (hchain _)
  | orWhereOp => exact (q.toOption_append _ .or).trans (hchain _)
  | orderBy | orderByAsc | orderByDesc => rfl
  | select | top | skip =>
    simp only [QueryCall.clause?, Option.toList_none, List.append_nil]
    rfl

/-- One more call behind others. -/
theorem build_concat (calls : List QueryCall) (call : QueryCall) :
    build (calls ++ [call]) = call.run (build calls) := by
  simp only [build, List.foldl_append, List.foldl_cons, List.foldl_nil]

/-- One more expression behind a chain. -/
theorem chain_concat (appended : List (Join × FilterExpr)) (join : Join) (expr : FilterExpr) :
    chain (appended ++ [(join, expr)]) = chain appended ++
      [expr.withJoin (if (chain appended).isEmpty then none else some join)] := by
  cases appended with
  | nil => rfl
  | cons first rest => simp [chain]

/-- A call goes to the end of a chain. -/
theorem filters_append? {appended : List (Join × FilterExpr)} (hchain : q.filters = chain appended)
    (appended? : Option (Join × FilterExpr)) :
    (q.append? appended?).filters = chain (appended ++ appended?.toList) := by
  cases appended? with
  | none => rw [Option.toList_none, List.append_nil, append?, hchain]
  | some added =>
    obtain ⟨join, expr⟩ := added
    rw [Option.toList_some, chain_concat, ← hchain]
    rfl

/-- A query is made up of what the calls contribute that build it. -/
theorem build_eq (calls : List QueryCall) : build calls =
    { selected := QueryCall.selectedBy calls
      filters := chain (calls.filterMap QueryCall.appended?)
      ordering := calls.filterMap QueryCall.clause?
      limit := (calls.filterMap QueryCall.limit?).getLast?
      offset := (calls.filterMap QueryCall.offset?).getLast? } := by
  induction calls using List.reverseRecOn with
  | nil => rfl
  | append_singleton calls call ih =>
    have hconcat : ∀ {α : Type} (contributed? : QueryCall → Option α),
        (calls ++ [call]).filterMap contributed? =
          calls.filterMap contributed? ++ (contributed? call).toList := by
      intro α contributed?
      cases h : contributed? call <;> simp [List.filterMap_append, h]
    have hlast : ∀ {α : Type} (contribution? : Option α),
        contribution?.toList.getLast? = contribution? := by
      intro α contribution?
      cases contribution? <;> rfl
    have hfilters : (build calls).filters = chain (calls.filterMap QueryCall.appended?) := by rw [ih]
    rw [build_concat, run_eq, filters_append? _ hfilters, ih]
    simp only [QueryCall.selectedBy, hconcat, List.getLast?_append, hlast, Option.getD_or]

/-! ## Chains -/

/-- The text of expressions that are appended one after the other: each behind the word of its
call, except for the first one. -/
def chainText : List (Join × FilterExpr) → String
  | [] => ""
  | (_, first) :: rest => first.render ++
    String.join (rest.map fun (join, expr) => " " ++ join.keyword ++ " " ++ expr.render)

/-- The chain of a query that expressions have been appended to, each by a call that stands for a
word. -/
structure Chains (q : ODataQuery) (appended : List (Join × FilterExpr)) : Prop where
  /-- Each expression is in its place, and the word of its call joins it, whatever did elsewhere;
  nothing joins the first one. -/
  filters_eq : ∀ i : Nat, q.filters[i]? =
    appended[i]?.map fun (join, expr) => expr.withJoin (if i = 0 then none else some join)
  /-- There is a text if anything has been appended, and then it is that of the expressions. -/
  filterText?_eq : q.filterText? = if appended = [] then none else some (chainText appended)
  /-- No later expression needs a word to fall back on. -/
  joined : ∀ expr ∈ q.filters.tail, expr.join.isSome

/-- A chain is made up of the expressions that are appended. -/
theorem chains_of_filters_eq {appended : List (Join × FilterExpr)}
    (hfilters : q.filters = chain appended) : q.Chains appended where
  filters_eq i := by
    rw [hfilters]
    cases appended with
    | nil => rfl
    | cons first rest =>
      cases i with
      | zero => rfl
      | succ i =>
        rw [chain, List.getElem?_cons_succ, List.getElem?_cons_succ, List.getElem?_map]
        rfl
  filterText?_eq := by
    rw [filterText?, hfilters]
    cases appended with
    | nil => rfl
    | cons first rest =>
      simp only [chain, chainText, List.map_map, if_neg (List.cons_ne_nil first rest)]
      rfl
  joined := by
    rw [hfilters]
    cases appended with
    | nil => exact nofun
    | cons first rest =>
      rw [chain, List.tail_cons, List.forall_mem_map]
      exact fun added _ => rfl

/-- The chain of a query that calls have built is that of the expressions that they append. -/
theorem build_chains (calls : List QueryCall) :
    (build calls).Chains (calls.filterMap QueryCall.appended?) :=
  chains_of_filters_eq _ (by rw [build_eq])

end ODataQuery

end ODataSession
