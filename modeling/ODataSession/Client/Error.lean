import ODataSession.Config.Error
import ODataSession.Http.Message
import ODataSession.Session.Store
import ODataSession.Url.Error

/-!
# Client errors

Why an operation of a client failed. A response with a bad status is no error, except the
response to a login.
-/

namespace ODataSession

/-- Why a value could not be written as JSON. -/
inductive EncodeError
  /-- The name of a member is not a text. -/
  | keyNotText
  deriving DecidableEq, Repr, Inhabited

/-- The text shown for an error. -/
def EncodeError.message : EncodeError → String
  | .keyNotText => "key must be a string"

/-- Why a login was refused. -/
inductive LoginRefusal
  /-- The body of the response says why. -/
  | rejected (body : String)
  /-- The body of the response could not be read. -/
  | unreadable (failure : Http.Failure)
  /-- The response was good but brought no cookie. -/
  | noCookie
  deriving DecidableEq, Inhabited

/-- What is known about a refusal. -/
def LoginRefusal.text : LoginRefusal → String
  | .rejected body => body
  | .unreadable failure => "failed to read response body: " ++ failure.message
  | .noCookie => "login response did not set a session cookie"

/-- Why an operation of a client failed. -/
inductive ClientError
  | configuration (e : ConfigError)
  | authentication (slot : UInt64) (status : Http.Status) (refusal : LoginRefusal)
  | transport (failure : Http.Failure)
  | invalidUrl (e : UrlError)
  | invalidHeader (e : Http.HeaderError)
  | encoding (e : EncodeError)
  | store (e : StoreError)
  deriving DecidableEq, Inhabited

namespace ClientError

/-- The text shown for an error. -/
def message : ClientError → String
  | .configuration e => "configuration error: " ++ e.message
  | .authentication slot status refusal =>
    s!"Service Layer login failed (slot {slot}, status {status}): {refusal.text}"
  | .transport failure => "HTTP transport error: " ++ failure.message
  | .invalidUrl e => "invalid URL: " ++ e.message
  | .invalidHeader e => "invalid header: " ++ e.message
  | .encoding e => "failed to encode request body: " ++ e.message
  | .store e => "session store error: " ++ e.reason

/-- Whether the server refused a login. -/
def isAuthentication : ClientError → Bool
  | .authentication _ _ _ => true
  | _ => false

end ClientError

end ODataSession
