import ODataSession.Client.Basic

/-!
# Operations

An operation of a client runs at a site: the client itself, the backend, the store, and a trace
of what has happened. It ends with a value or with an error, and what has happened stays in either
case. The primitive operations below are the only ones that touch the backend, the store and the
trace; where one of them fails, the failure is a value, and it is up to the caller to make an
error of it.
-/

namespace ODataSession

/-- What a request is for. -/
inductive Purpose
  /-- To open a session. -/
  | login
  /-- To close a session. -/
  | logout
  /-- For the business of whoever uses the client. -/
  | business
  deriving DecidableEq, Repr, Inhabited

/-- One thing that happened. -/
inductive Event
  | sent (purpose : Purpose) (request : Http.Request)
      (outcome : Except Http.Failure Http.Response)
  | got (key : String) (outcome : Except StoreError (Option String))
  | checked (key : String) (outcome : Except StoreError Bool)
  | put (key token : String) (lifetime : Nat) (outcome : Except StoreError Unit)
  | forgot (key : String) (outcome : Except StoreError Unit)
  | paused (milliseconds : UInt64)
  | noted (notice : Notice)

/-- Where an operation runs. -/
structure Site (β σ : Type) where
  client : Client
  backend : β
  store : σ
  /-- What has happened, in order. -/
  trace : List Event

/-- An operation at a site. -/
abbrev Operation (β σ α : Type) := ExceptT ClientError (StateM (Site β σ)) α

namespace Operation

section
variable {β σ : Type}

/-- Adds an event to the trace. -/
def record (e : Event) : Operation β σ Unit :=
  modify fun s => { s with trace := s.trace ++ [e] }

/-- Gives a notice. -/
def note (notice : Notice) : Operation β σ Unit :=
  record (.noted notice)

/-- Waits. -/
def pause (milliseconds : UInt64) : Operation β σ Unit :=
  record (.paused milliseconds)

/-- The client as it is now. -/
def client : Operation β σ Client :=
  return (← get).client

/-- Changes the client. -/
def update (f : Client → Client) : Operation β σ Unit :=
  modify fun s => { s with client := f s.client }

/-- Ends with an error unless there is a value. -/
def require {ε α : Type} (cause : ε → ClientError) : Except ε α → Operation β σ α
  | .ok a => pure a
  | .error e => throw (cause e)

/-- Sends a request with the standing headers of the client. A request that cannot be written as an
HTTP message is not sent. -/
def send [Http.Backend β] (purpose : Purpose) (request : Http.Request) :
    Operation β σ (Except Http.Failure Http.Response) := do
  let s ← get
  let request :=
    { request with headers := Http.Headers.withMissing request.headers s.client.standing }
  if Http.isSendable request.url then
    let (outcome, backend) := Http.Backend.answer s.backend request
    set { s with backend }
    record (.sent purpose request outcome)
    return outcome
  else return .error ⟨.unbuildable, some request.url⟩

variable [SessionStore σ]

/-- Asks the store for the token under a key. -/
def lookUp (key : String) : Operation β σ (Except StoreError (Option String)) := do
  let s ← get
  let (outcome, store) := SessionStore.get s.store key
  set { s with store }
  record (.got key outcome)
  return outcome

/-- Asks the store whether it has a token under a key. -/
def check (key : String) : Operation β σ (Except StoreError Bool) := do
  let s ← get
  let (outcome, store) := SessionStore.has s.store key
  set { s with store }
  record (.checked key outcome)
  return outcome

/-- Puts a token into the store for some seconds. -/
def keep (key token : String) (lifetime : Nat) : Operation β σ (Except StoreError Unit) := do
  let s ← get
  let (outcome, store) := SessionStore.put s.store key token (.ofSeconds lifetime)
  set { s with store }
  record (.put key token lifetime outcome)
  return outcome

/-- Drops what the store has under a key. -/
def forget (key : String) : Operation β σ (Except StoreError Unit) := do
  let s ← get
  let (outcome, store) := SessionStore.forget s.store key
  set { s with store }
  record (.forgot key outcome)
  return outcome

end

end Operation

end ODataSession
