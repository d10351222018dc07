import ODataSession.Query.Options

/-!
# Entity queries

A query bound to the name of an entity set, and the path that addresses one record of it.
-/

namespace ODataSession

/-- An entity set and the options of a query on it. -/
structure EntityQuery where
  entity : String
  query : ODataQuery
  deriving BEq, Inhabited

namespace EntityQuery

/-- A query without options on an entity set. -/
def ofEntity (entity : String) : EntityQuery := ⟨entity, .empty⟩

/-- Replaces the options. -/
def withQuery (e : EntityQuery) (query : ODataQuery) : EntityQuery := { e with query }

/-- The path of the record with a key: the entity set and the key as a literal in parentheses. -/
def keyPath {α : Type} [ToLiteral α] (e : EntityQuery) (key : α) : String :=
  e.entity ++ "(" ++ escape key ++ ")"

end EntityQuery

end ODataSession
