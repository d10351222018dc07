import ODataSession.Proofs.Text.Case
import ODataSession.Query.Options

/-!
# Operators by their spellings

A filter can be built from an operator that is given as text. The eighteen spellings stand for
twelve constructors of expressions (`Operator.spellings`, `Operator.constructor`), each of which
takes a value, a list of values or two bounds. So there are two questions: whether the text is a
spelling, and whether the operand is what the constructor takes. Every constructor either takes an
operand or has a reason not to (`FilterConstructor.takes_or_refuses`), so that it is enough to show
what an operator makes of the one and of the other. `ODataQuery.append_byName` says of every text
and every operand what becomes of the query.
-/

namespace ODataSession

/-- A constructor of expressions, by what it takes behind the field. -/
inductive FilterConstructor
  | ofValue (make : String → Literal → FilterExpr)
  | ofList (make : String → List Literal → FilterExpr)
  | ofBounds (make : String → Literal → Literal → FilterExpr)

namespace FilterConstructor

variable {field keyword : String}

/-- What a constructor makes of a field and an operand that it takes. -/
inductive Takes (field : String) : FilterConstructor → Operand → FilterExpr → Prop
  | value (make : String → Literal → FilterExpr) (value : Literal) :
    Takes field (.ofValue make) (.scalar value) (make field value)
  | list (make : String → List Literal → FilterExpr) (values : List Literal) :
    Takes field (.ofList make) (.list values) (make field values)
  | bounds (make : String → Literal → Literal → FilterExpr) (low high : Literal) :
    Takes field (.ofBounds make) (.list [low, high]) (make field low high)

/-- Why a constructor does not take an operand. A single value is one bound where two are wanted. -/
inductive Refuses (keyword : String) : FilterConstructor → Operand → QueryError → Prop
  | list_for_value (make : String → Literal → FilterExpr) (values : List Literal) :
    Refuses keyword (.ofValue make) (.list values) (.expectedScalar keyword)
  | value_for_list (make : String → List Literal → FilterExpr) (value : Literal) :
    Refuses keyword (.ofList make) (.scalar value) (.expectedList keyword)
  | value_for_bounds (make : String → Literal → Literal → FilterExpr) (value : Literal) :
    Refuses keyword (.ofBounds make) (.scalar value) (.invalidBetween 1)
  | list_for_bounds (make : String → Literal → Literal → FilterExpr) (values : List Literal)
    (hlength : values.length ≠ 2) :
    Refuses keyword (.ofBounds make) (.list values) (.invalidBetween values.length)

/-- A constructor takes an operand or has a reason not to. -/
theorem takes_or_refuses (field keyword : String) (constructor : FilterConstructor)
    (operand : Operand) : (∃ expr, constructor.Takes field operand expr) ∨
      ∃ e, constructor.Refuses keyword operand e := by
  cases constructor with
  | ofValue make =>
    cases operand with
    | scalar value => exact .inl ⟨_, .value make value⟩
    | list values => exact .inr ⟨_, .list_for_value make values⟩
  | ofList make =>
    cases operand with
    | scalar value => exact .inr ⟨_, .value_for_list make value⟩
    | list values => exact .inl ⟨_, .list make values⟩
  | ofBounds make =>
    cases operand with
    | scalar value => exact .inr ⟨_, .value_for_bounds make value⟩
    | list values =>
      by_cases hlength : values.length = 2
      · obtain ⟨low, high, rfl⟩ := List.length_eq_two.1 hlength
        exact .inl ⟨_, .bounds make low high⟩
      · exact .inr ⟨_, .list_for_bounds make values hlength⟩

end FilterConstructor

namespace Operator

variable {operator : Operator} {field : String} {operand : Operand} {expr : FilterExpr}
  {e : QueryError} {s : String}

/-- The spellings of operators in lower case. -/
def spellings : List (String × Operator) :=
  [("=", .equal), ("eq", .equal), ("!=", .notEqual), ("ne", .notEqual), (">", .greaterThan),
   ("gt", .greaterThan), (">=", .greaterOrEqual), ("ge", .greaterOrEqual), ("<", .lessThan),
   ("lt", .lessThan), ("<=", .lessOrEqual), ("le", .lessOrEqual), ("contains", .contains),
   ("startswith", .startsWith), ("endswith", .endsWith), ("in", .inSet), ("notin", .notInSet),
   ("between", .between)]

/-- The constructor that an operator denotes. -/
def constructor : Operator → FilterConstructor
  | .equal => .ofValue FilterExpr.equal
  | .notEqual => .ofValue FilterExpr.notEqual
  | .greaterThan => .ofValue FilterExpr.greaterThan
  | .greaterOrEqual => .ofValue FilterExpr.greaterOrEqual
  | .lessThan => .ofValue FilterExpr.lessThan
  | .lessOrEqual => .ofValue FilterExpr.lessOrEqual
  | .contains => .ofValue FilterExpr.contains
  | .startsWith => .ofValue FilterExpr.startsWith
  | .endsWith => .ofValue FilterExpr.endsWith
  | .inSet => .ofList FilterExpr.inSet
  | .notInSet => .ofList FilterExpr.notInSet
  | .between => .ofBounds FilterExpr.between

/-! ## Spellings -/

/-- The spellings are all that denotes an operator. -/
theorem ofSpelling?_eq_some_iff : ofSpelling? s = some operator ↔ (s, operator) ∈ spellings := by
  constructor
  · intro h
    unfold ofSpelling? at h
    split at h <;> cases h <;> decide
  · have hall : ∀ spelling ∈ spellings, ofSpelling? spelling.1 = some spelling.2 := by decide
    exact hall (s, operator)

/-- A text is read as an operator if its lower case is a spelling of it. -/
theorem parse_eq_ok_iff : parse s = .ok operator ↔ (s.toLower, operator) ∈ spellings := by
  rw [← ofSpelling?_eq_some_iff, parse]
  cases ofSpelling? s.toLower <;> simp

/-- A text that is no spelling is named in the error, in lower case. -/
theorem parse_eq_error_iff : parse s = .error e ↔
    s.toLower ∉ spellings.map Prod.fst ∧ e = .unsupportedOperator s.toLower := by
  have hnone : s.toLower ∉ spellings.map Prod.fst ↔ ofSpelling? s.toLower = none := by
    simp only [Option.eq_none_iff_forall_ne_some, ne_eq, ofSpelling?_eq_some_iff, List.mem_map,
      Prod.exists, exists_and_right, exists_eq_right, not_exists]
  rw [hnone, parse]
  cases ofSpelling? s.toLower <;> simp [eq_comm]

/-! ## Operands -/

/-- An operator gives the expression that its constructor makes. -/
theorem apply_of_takes (h : operator.constructor.Takes field operand expr) :
    operator.apply field operand = .ok expr := by
  cases operator <;> cases h <;> rfl

/-- An operator fails for the reason that its constructor has. -/
theorem apply_of_refuses (h : operator.constructor.Refuses operator.keyword operand e) :
    operator.apply field operand = .error e := by
  cases operator with
  | between =>
    cases h with
    | value_for_bounds => rfl
    | list_for_bounds make values hlength =>
      rw [apply]
      rintro low high rfl
      exact hlength rfl
  | _ => cases h; rfl

/-- An operator gives an expression exactly if its constructor makes that of the operand. -/
theorem apply_eq_ok_iff :
    operator.apply field operand = .ok expr ↔ operator.constructor.Takes field operand expr := by
  refine ⟨fun h => ?_, apply_of_takes⟩
  obtain ⟨made, hmade⟩ | ⟨e, he⟩ :=
    operator.constructor.takes_or_refuses field operator.keyword operand
  · rw [apply_of_takes hmade] at h
    cases h
    exact hmade
  · rw [apply_of_refuses he] at h
    cases h

/-- An operator fails exactly if its constructor has a reason to. -/
theorem apply_eq_error_iff : operator.apply field operand = .error e ↔
    operator.constructor.Refuses operator.keyword operand e := by
  refine ⟨fun h => ?_, apply_of_refuses⟩
  obtain ⟨made, hmade⟩ | ⟨e', he'⟩ :=
    operator.constructor.takes_or_refuses field operator.keyword operand
  · rw [apply_of_takes hmade] at h
    cases h
  · rw [apply_of_refuses he'] at h
    cases h
    exact he'

end Operator

namespace ODataQuery

variable {field spelling : String} {operand : Operand}

/-! ## Calls -/

/-- A text and an operand give an expression if the constructor takes the operand that the text is a
spelling of. -/
theorem named_eq_ok_iff {expr : FilterExpr} : named field spelling operand = .ok expr ↔
    ∃ operator, (spelling.toLower, operator) ∈ Operator.spellings ∧
      operator.constructor.Takes field operand expr := by
  simp only [← Operator.parse_eq_ok_iff, ← Operator.apply_eq_ok_iff]
  cases h : Operator.parse spelling <;> simp [named, h, bind, Except.bind]

/-- A text and an operand give none if the text is no spelling, and otherwise if the constructor has
a reason not to take the operand. -/
theorem named_eq_error_iff {e : QueryError} : named field spelling operand = .error e ↔
    (spelling.toLower ∉ Operator.spellings.map Prod.fst ∧
        e = .unsupportedOperator spelling.toLower) ∨
      ∃ operator, (spelling.toLower, operator) ∈ Operator.spellings ∧
        operator.constructor.Refuses operator.keyword operand e := by
  simp only [← Operator.parse_eq_ok_iff, ← Operator.parse_eq_error_iff]
  cases h : Operator.parse spelling <;>
    simp [named, h, bind, Except.bind, Operator.apply_eq_error_iff]

/-- A call that takes an operator by its spelling does what another does with the expression of a
constructor. -/
structure FollowsConstructors (call : String → String → Operand → Except QueryError ODataQuery)
    (append : FilterExpr → ODataQuery) : Prop where
  /-- The call succeeds exactly if the text is a spelling, in any case, of a constructor that takes
  the operand, and then the expression of the constructor is appended. -/
  ok_iff : ∀ field spelling operand q, call field spelling operand = .ok q ↔
    ∃ operator, (spelling.toLower, operator) ∈ Operator.spellings ∧
      ∃ expr, operator.constructor.Takes field operand expr ∧ q = append expr
  /-- The call fails exactly if the text is no spelling, which the error then shows in lower case,
  or if it is one of a constructor that has a reason not to take the operand. -/
  error_iff : ∀ field spelling operand e, call field spelling operand = .error e ↔
    (spelling.toLower ∉ Operator.spellings.map Prod.fst ∧
        e = .unsupportedOperator spelling.toLower) ∨
      ∃ operator, (spelling.toLower, operator) ∈ Operator.spellings ∧
        operator.constructor.Refuses operator.keyword operand e
  /-- The case of the text does not matter. -/
  case_eq : ∀ field spelling spelling' operand, Text.SameLetters spelling spelling' →
    call field spelling operand = call field spelling' operand

/-- Whatever is done with the expression of a spelling, it is done with that of a constructor. -/
theorem followsConstructors_of_append (append : FilterExpr → ODataQuery) :
    FollowsConstructors (fun field spelling operand => do
      return append (← named field spelling operand)) append where
  ok_iff field spelling operand q := by
    have happend : (do return append (← named field spelling operand)) = Except.ok q ↔
        ∃ expr, named field spelling operand = .ok expr ∧ q = append expr := by
      cases named field spelling operand <;> simp [bind, Except.bind, pure, Except.pure, eq_comm]
    rw [happend]
    simp only [named_eq_ok_iff]
    constructor
    · rintro ⟨expr, ⟨operator, hspelling, htakes⟩, rfl⟩
      exact ⟨operator, hspelling, expr, htakes, rfl⟩
    · rintro ⟨operator, hspelling, expr, htakes, rfl⟩
      exact ⟨expr, ⟨operator, hspelling, htakes⟩, rfl⟩
  error_iff field spelling operand e := by
    rw [← named_eq_error_iff]
    cases named field spelling operand <;> simp [bind, Except.bind, pure, Except.pure]
  case_eq field spelling spelling' operand hsame := by
    simp only [named, Operator.parse, hsame.toLower_eq]

/-- An operator that is given by its spelling is the constructor that the spelling denotes. -/
theorem append_byName (q : ODataQuery) : FollowsConstructors q.whereOp q.whereExpr ∧
    FollowsConstructors q.orWhereOp q.orWhereExpr :=
  ⟨followsConstructors_of_append q.whereExpr, followsConstructors_of_append q.orWhereExpr⟩

end ODataQuery

end ODataSession
