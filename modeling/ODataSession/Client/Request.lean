import ODataSession.Client.Login
import ODataSession.Query.Entity
import ODataSession.Url.Form

/-!
# Requests

Requests that are described without the session they are sent with, so that they can be sent again
when the session has been renewed. `request` sends one: it opens a session if none is held, and when
the server no longer accepts the session it renews it once and sends the request a second time,
without the queued headers, which are for the first time only. `sendWith` sends a request that the
caller finishes, and does not renew.
-/

namespace ODataSession

/-- A request without the session it is sent with. -/
structure PendingRequest where
  method : Http.Method
  endpoint : String
  /-- The parameters that take the place of the endpoint's query, if there are any. -/
  query : QueryParameters
  body : String
  deriving DecidableEq, Inhabited

/-- A body as JSON text, or why there is none. -/
abbrev JsonBody := Except EncodeError String

namespace JsonBody

/-- A JSON value as a body. -/
def ofJson (v : Json) : JsonBody :=
  .ok v.compact

/-- Pairs of a name and a value as a body; every name has to be a text. -/
def ofPairs (pairs : List (Json × Json)) : JsonBody := do
  let members ← pairs.mapM fun (name, v) =>
    match name with
    | .string name => .ok (name, v)
    | _ => .error .keyNotText
  ofJson (.object members)

end JsonBody

namespace PendingRequest

/-- A request without parameters and body. -/
def plain (method : Http.Method) (endpoint : String) : PendingRequest :=
  ⟨method, endpoint, .empty, ""⟩

/-- Reads what an endpoint has. -/
def get (endpoint : String) : PendingRequest := plain .get endpoint

/-- Reads what an endpoint has, with parameters. -/
def getWith (endpoint : String) (query : QueryParameters) : PendingRequest :=
  { get endpoint with query }

/-- Deletes what an endpoint has. -/
def delete (endpoint : String) : PendingRequest := plain .delete endpoint

/-- Sends a body to an endpoint. -/
def withBody (method : Http.Method) (endpoint : String) (body : JsonBody) :
    Except EncodeError PendingRequest :=
  body.map fun body => { plain method endpoint with body }

/-- Creates a record or calls an action. -/
def post : String → JsonBody → Except EncodeError PendingRequest := withBody .post

/-- Replaces a record. -/
def put : String → JsonBody → Except EncodeError PendingRequest := withBody .put

/-- Changes a record. -/
def patch : String → JsonBody → Except EncodeError PendingRequest := withBody .patch

/-- Any method, with parameters and without a body. -/
def withMethod (method : Http.Method) (endpoint : String) (query : QueryParameters) :
    PendingRequest :=
  { plain method endpoint with query }

end PendingRequest

namespace EntityQuery

/-- The request for all records of the query. -/
def runRequest (e : EntityQuery) : PendingRequest :=
  .getWith e.entity e.query.toParameters

/-- The request for the record with a key. -/
def findRequest {α : Type} [ToLiteral α] (e : EntityQuery) (key : α) : PendingRequest :=
  .getWith (e.keyPath key) e.query.toParameters

end EntityQuery

namespace Client

/-- The URL of a request. -/
def requestUrl (c : Client) (endpoint : String) (query : QueryParameters) : Except UrlError Url := do
  let url ← c.base.endpoint endpoint
  return if query.isEmpty then url else url.withQuery query.encode.toList

/-- The HTTP request for a pending one: the headers of this time and then the cookie. -/
def prepare (c : Client) (r : PendingRequest) (headers : List Http.Header) :
    Except UrlError Http.Request := do
  let url ← c.requestUrl r.endpoint r.query
  return ⟨r.method, url, headers ++ cookieHeaders c.credential, r.body⟩

end Client

/-- What a caller makes of a request. -/
inductive Adjustment
  /-- Appends names and values to the query. -/
  | query (pairs : List (String × String))
  /-- Appends a header, beside one of the same name if there is one. -/
  | header (name value : String)
  /-- Sets the body. -/
  | body (text : String)
  /-- Makes anything of it: another request, with or without what was on it, or none. -/
  | custom (change : Http.Request → Except Http.Failure Http.Request)
  deriving Inhabited

/-- Adjusts a request. A header that HTTP does not allow makes it unbuildable. -/
def Adjustment.apply (request : Http.Request) : Adjustment → Except Http.Failure Http.Request
  | .query pairs => .ok { request with url := request.url.appendForm pairs }
  | .header name value =>
    match Http.Header.ofPair name value with
    | .ok h => .ok { request with headers := request.headers ++ [h] }
    | .error _ => .error ⟨.unbuildable, none⟩
  | .body text => .ok { request with body := text }
  | .custom change => change request

namespace Operation

section
variable {β σ : Type} [Http.Backend β]

/-- Sends a pending request once with the credential that is held. -/
def dispatch (r : PendingRequest) (headers : List Http.Header) : Operation β σ Http.Response := do
  let request ← require .invalidUrl ((← client).prepare r headers)
  require .transport (← send .business request)

/-- Takes the queued headers away from the client. -/
def takeHeaders : Operation β σ (List Http.Header) := do
  let headers := (← client).queued
  update fun c => { c with queued := [] }
  return headers

variable [SessionStore σ]

/-- Gives up a rejected session: it is dropped from the client and from the store. -/
def evictSession : Operation β σ Unit := do
  update fun c => c.withoutCredential .retrying
  let c ← client
  match ← forget c.key.text with
  | .ok () => pure ()
  | .error e =>
    note (.evictionFailed c.slot (.store e))
    update Client.failed
    throw (.store e)

/-- Renews the session and sends a request again. -/
def renewAndReplay (r : PendingRequest) : Operation β σ Http.Response := do
  evictSession
  openSession
  let response ← dispatch r []
  if response.status.isSessionExpired then
    note (.stillRejected (← client).slot response.status)
  return response

/-- Sends a request, renewing the session once if it is rejected. -/
def sendPending (r : PendingRequest) : Operation β σ Http.Response := do
  let headers ← takeHeaders
  ensureSession
  let response ← dispatch r headers
  if response.status.isSessionExpired then
    note (.sessionRejected (← client).slot response.status r.method r.endpoint)
    renewAndReplay r
  else return response

/-- Sends a request that may have failed to be encoded; if it has, nothing happens. -/
def request (r : Except EncodeError PendingRequest) : Operation β σ Http.Response := do
  sendPending (← require .encoding r)

/-- Sends a request that the caller adjusts, the session's cookie and the queued headers being on
it already. -/
def sendWith (method : Http.Method) (endpoint : String) (adjustments : List Adjustment) :
    Operation β σ Http.Response := do
  let headers ← takeHeaders
  ensureSession
  let draft ← require .invalidUrl ((← client).prepare (.plain method endpoint) headers)
  let request ← require .transport (adjustments.foldlM Adjustment.apply draft)
  require .transport (← send .business request)

/-- Queues headers for the next request. -/
def withHeaders (pairs : List (String × String)) : Operation β σ Unit := do
  let c ← require .invalidHeader ((← client).withHeaders pairs)
  update fun _ => c

end

end Operation

end ODataSession
