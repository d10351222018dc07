import ODataSession.Session.MemoryStore

/-!
# Failing stores

A store in memory some of whose operations fail. A failing operation changes nothing.
-/

namespace ODataSession

/-- An operation of a store. -/
inductive StoreOperation
  | get
  | put
  | forget
  deriving DecidableEq, Repr, Inhabited

/-- The name of an operation. -/
def StoreOperation.name : StoreOperation → String
  | .get => "get"
  | .put => "put"
  | .forget => "forget"

/-- A store in memory and the operations that fail. -/
structure FailingStore where
  inner : MemoryStore
  failing : List StoreOperation
  deriving DecidableEq, Inhabited

namespace FailingStore

/-- An empty store whose operations work. -/
def empty : FailingStore := ⟨.empty, []⟩

/-- Carries an operation out unless it fails. -/
def guarded {α : Type} (s : FailingStore) (operation : StoreOperation)
    (run : MemoryStore → Except StoreError α × MemoryStore) : Except StoreError α × FailingStore :=
  if operation ∈ s.failing then (.error ⟨operation.name ++ " unavailable"⟩, s)
  else
    let (outcome, inner) := run s.inner
    (outcome, { s with inner })

instance : SessionStore FailingStore where
  get s key := s.guarded .get fun m => SessionStore.get m key
  put s key token lifetime := s.guarded .put fun m => SessionStore.put m key token lifetime
  forget s key := s.guarded .forget fun m => SessionStore.forget m key

end FailingStore

end ODataSession
