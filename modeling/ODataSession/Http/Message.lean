import ODataSession.Http.Header
import ODataSession.Text.Utf8
import ODataSession.Url.Basic

/-!
# HTTP messages

Requests, responses, and the ways in which a request can fail without one. A failure to connect
and a request that took too long are transient, trying again may help; all others are not. A
request whose URL cannot be written into an HTTP message fails before anything is sent.
-/

namespace ODataSession.Http

/-- The method of a request. -/
structure Method where
  text : String
  deriving DecidableEq, Repr, Inhabited

namespace Method

/-- Reads a record or a set. -/
def get : Method := ⟨"GET"⟩

/-- Creates a record or calls an action. -/
def post : Method := ⟨"POST"⟩

/-- Replaces a record. -/
def put : Method := ⟨"PUT"⟩

/-- Changes a record. -/
def patch : Method := ⟨"PATCH"⟩

/-- Deletes a record. -/
def delete : Method := ⟨"DELETE"⟩

/-- Reads everything about a record but its content. -/
def head : Method := ⟨"HEAD"⟩

end Method

/-- A request. -/
structure Request where
  method : Method
  url : Url
  headers : List Header
  body : String
  deriving DecidableEq, Inhabited

/-- Why a request has no response. -/
inductive FailureCause
  /-- The connection was refused. -/
  | refused
  /-- There is no connection to the host. -/
  | unreachable
  /-- The response did not come in time. -/
  | timedOut
  /-- The connection was closed before the response came. -/
  | interrupted
  /-- The response came, but its body broke off. -/
  | brokenBody
  /-- The request could not be written as an HTTP message. -/
  | unbuildable
  deriving DecidableEq, Repr, Inhabited

/-- A request without a response, and its URL where it is known. -/
structure Failure where
  cause : FailureCause
  url : Option Url
  deriving DecidableEq, Inhabited

namespace Failure

/-- What went wrong, without the URL. -/
def headline (f : Failure) : String :=
  match f.cause with
  | .refused | .unreachable | .timedOut | .interrupted => "error sending request"
  | .brokenBody => "error decoding response body"
  | .unbuildable => "builder error"

/-- The text shown for a failure. -/
def message (f : Failure) : String :=
  match f.url with
  | some url => f.headline ++ " for url (" ++ url.text ++ ")"
  | none => f.headline

/-- Whether another attempt may succeed. -/
def isTransient (f : Failure) : Bool :=
  match f.cause with
  | .refused | .unreachable | .timedOut => true
  | .interrupted | .brokenBody | .unbuildable => false

end Failure

/-- The status of a response. -/
abbrev Status := UInt16

/-- Whether a status says that the request was carried out. -/
def Status.isSuccess (status : Status) : Bool :=
  200 ≤ status && status ≤ 299

/-- Whether a status says that the session is no longer accepted. -/
def Status.isSessionExpired (status : Status) : Bool :=
  status = 401 || status = 403

/-- A response to a request. -/
structure Response where
  status : Status
  /-- The values of its `Set-Cookie` headers. -/
  setCookie : List (List UInt8)
  /-- The octets of its body, if the body does not break off. -/
  body : Option (List UInt8)
  /-- The URL that was asked. -/
  url : Url
  deriving DecidableEq, Inhabited

/-- The body as text. -/
def Response.text (r : Response) : Except Failure String :=
  match r.body with
  | some octets => .ok (String.ofList (Utf8.decodeLossy octets))
  | none => .error ⟨.brokenBody, some r.url⟩

/-- The length of the longest URL of a request, in octets. -/
def longestUrl : Nat := 65534

/-- The characters of a host that cannot stand in an HTTP message. -/
def isUnfitForHost (c : Char) : Bool :=
  c = '"' || c = '\x60' || c = '\x7b' || c = '\x7d'

/-- Whether a URL can be written into an HTTP message. -/
def isSendable (url : Url) : Bool :=
  (url.scheme = "http".toList || url.scheme = "https".toList) &&
    !url.hostText.any isUnfitForHost && url.text.utf8ByteSize ≤ longestUrl

end ODataSession.Http
