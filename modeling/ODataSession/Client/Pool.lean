import ODataSession.Client.Request

/-!
# Pools of requests

Several requests under one session. Requests are declared one after the other; a tag names the next
request, and requests without a tag are numbered. Each is sent once, a rejected session is not
renewed. The results stand in the order of the declarations, and one that could not be sent has
its error in its place.
-/

namespace ODataSession

/-- What a request of a pool is known by. -/
inductive PoolKey
  /-- Its number among the requests without a tag. -/
  | index (n : Nat)
  | tag (name : String)
  deriving DecidableEq, Repr, Inhabited

/-- The text of a key. -/
def PoolKey.text : PoolKey → String
  | .index n => "#" ++ toString n
  | .tag name => name

/-- A step of declaring requests. -/
inductive Declaration
  /-- Names the next request. -/
  | tag (name : String)
  /-- Declares a request. -/
  | request (r : Except EncodeError PendingRequest)

/-- Requests that have been declared. -/
structure Pool where
  entries : List (PoolKey × Except EncodeError PendingRequest)
  nextTag : Option String
  /-- The number of requests without a tag. -/
  untagged : Nat

namespace Pool

/-- No requests. -/
def empty : Pool := ⟨[], none, 0⟩

/-- The number of requests. -/
def size (p : Pool) : Nat :=
  p.entries.length

/-- Whether there are no requests. -/
def isEmpty (p : Pool) : Bool :=
  p.entries.isEmpty

/-- Takes a declaration. -/
def declare (p : Pool) : Declaration → Pool
  | .tag name => { p with nextTag := some name }
  | .request r =>
    match p.nextTag with
    | some name => ⟨p.entries ++ [(.tag name, r)], none, p.untagged⟩
    | none => ⟨p.entries ++ [(.index p.untagged, r)], none, p.untagged + 1⟩

/-- The requests of declarations. -/
def ofDeclarations (ds : List Declaration) : Pool :=
  ds.foldl declare empty

end Pool

/-- Results under the keys of their requests, in the order of declaration. -/
structure PoolResults (α : Type) where
  entries : List (PoolKey × α)
  deriving Repr, Inhabited

namespace PoolResults

variable {α : Type}

/-- The number of results. -/
def size (p : PoolResults α) : Nat :=
  p.entries.length

/-- Whether there are no results. -/
def isEmpty (p : PoolResults α) : Bool :=
  p.entries.isEmpty

/-- The result of the last request with a tag. -/
def get? (p : PoolResults α) (name : String) : Option α :=
  p.entries.reverse.lookup (.tag name)

/-- The result of the request without a tag that has a number. -/
def index? (p : PoolResults α) (n : Nat) : Option α :=
  p.entries.lookup (.index n)

/-- Drops the first entry with a key. -/
def eraseKey (key : PoolKey) (entries : List (PoolKey × α)) : List (PoolKey × α) :=
  entries.eraseP (·.1 = key)

/-- Takes the result of the last request with a tag out. -/
def remove (p : PoolResults α) (name : String) : Option α × PoolResults α :=
  (p.get? name, ⟨(eraseKey (.tag name) p.entries.reverse).reverse⟩)

end PoolResults

namespace Operation

section
variable {β σ : Type} [Http.Backend β]

/-- An operation whose error is a value. -/
def observe {α : Type} (op : Operation β σ α) : Operation β σ (Except ClientError α) :=
  ExceptT.lift op.run

/-- Sends a declared request. -/
def dispatchDeclared (entry : PoolKey × Except EncodeError PendingRequest) :
    Operation β σ (PoolKey × Except ClientError Http.Response) := do
  let result ← observe do dispatch (← require .encoding entry.2) []
  return (entry.1, result)

variable [SessionStore σ]

/-- Sends all requests of a pool under one session. -/
def pool (p : Pool) : Operation β σ (PoolResults (Except ClientError Http.Response)) := do
  ensureSession
  note (.poolDispatched (← client).slot p.size)
  return ⟨← p.entries.mapM dispatchDeclared⟩

end

end Operation

end ODataSession
