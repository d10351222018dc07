import ODataSession.Client.Error

/-!
# Notices

What a client tells whoever watches it. A notice has a level, a message and named fields; no notice
shows a password or a cookie.
-/

namespace ODataSession

/-- How much a notice matters. -/
inductive Level
  | debug
  | info
  | warn
  | error
  deriving DecidableEq, Repr, Inhabited

/-- The name of a level. -/
def Level.name : Level → String
  | .debug => "DEBUG"
  | .info => "INFO"
  | .warn => "WARN"
  | .error => "ERROR"

/-- What happened to a client. -/
inductive Notice
  /-- The certificate of the server will not be checked. -/
  | unverifiedTls (server : String)
  /-- A client was set up on a slot. -/
  | bound (slot poolSize : UInt64)
  /-- The store had a session. -/
  | reused (slot : UInt64)
  /-- The store had no session. -/
  | loggingIn (slot : UInt64)
  /-- An attempt to log in did not reach the server, another one follows. -/
  | attemptFailed (slot : UInt64) (attempt : UInt32) (failure : Http.Failure) (delay : UInt64)
  /-- The last attempt to log in did not reach the server. -/
  | attemptsExhausted (slot : UInt64) (attempt : UInt32) (failure : Http.Failure)
  /-- A login failed in a way that another attempt would not mend. -/
  | loginFailed (slot : UInt64) (failure : Http.Failure)
  /-- The server refused a login. -/
  | loginRejected (slot : UInt64) (status : Http.Status)
  /-- The server accepted a login and gave no cookie. -/
  | cookieMissing (slot : UInt64)
  /-- A new session could not be stored. -/
  | cachingFailed (slot : UInt64) (e : ClientError)
  /-- A login gave a session. -/
  | established (slot : UInt64) (attempt : UInt32)
  /-- There was no session to close. -/
  | nothingToClose (slot : UInt64)
  /-- A session was closed. -/
  | closed (slot : UInt64) (status : Http.Status)
  /-- A session could not be closed at the server. -/
  | closingFailed (slot : UInt64) (failure : Http.Failure)
  /-- The server no longer accepts a session. -/
  | sessionRejected (slot : UInt64) (status : Http.Status) (method : Http.Method)
      (endpoint : String)
  /-- A rejected session could not be dropped from the store. -/
  | evictionFailed (slot : UInt64) (e : ClientError)
  /-- The server does not accept the renewed session either. -/
  | stillRejected (slot : UInt64) (status : Http.Status)
  /-- A pool of requests is about to be sent. -/
  | poolDispatched (slot : UInt64) (requests : Nat)
  deriving DecidableEq, Inhabited

/-- A fraction of a second in thousandths, without zeros at its end. -/
def fractionText (thousandths : Nat) : String :=
  let digits := (Nat.toDigits 10 (1000 + thousandths)).drop 1
  String.ofList (digits.reverse.dropWhile (· = '0')).reverse

/-- A span of time with its unit: nothing in nanoseconds, less than a second in milliseconds, and
more in seconds with the places that are needed. -/
def durationText (milliseconds : UInt64) : String :=
  let n := milliseconds.toNat
  if n = 0 then "0ns"
  else if n < 1000 then toString n ++ "ms"
  else if n % 1000 = 0 then toString (n / 1000) ++ "s"
  else toString (n / 1000) ++ "." ++ fractionText (n % 1000) ++ "s"

namespace Notice

/-- How much a notice matters. -/
def level : Notice → Level
  | .bound .. | .reused .. | .loggingIn .. | .nothingToClose .. | .poolDispatched .. => .debug
  | .established .. | .closed .. => .info
  | .unverifiedTls .. | .attemptFailed .. | .closingFailed .. | .sessionRejected ..
  | .stillRejected .. => .warn
  | .attemptsExhausted .. | .loginFailed .. | .loginRejected .. | .cookieMissing ..
  | .cachingFailed .. | .evictionFailed .. => .error

/-- The message of a notice. -/
def message : Notice → String
  | .unverifiedTls _ =>
    "TLS certificate verification is disabled. Only use this against " ++
      "backends with self-signed certificates on trusted networks."
  | .bound _ _ => "Service Layer client bound to slot"
  | .reused _ => "Reusing cached Service Layer session"
  | .loggingIn _ => "No cached session, logging in"
  | .attemptFailed _ _ failure delay =>
    "Login attempt failed (" ++ failure.message ++ "), retrying in " ++ durationText delay
  | .attemptsExhausted _ _ failure | .loginFailed _ failure => "Login failed: " ++ failure.message
  | .loginRejected _ _ => "Login rejected by backend"
  | .cookieMissing _ => "Login response carried no session cookie"
  | .cachingFailed _ e => "Could not cache session: " ++ e.message
  | .established _ _ => "Service Layer session established"
  | .nothingToClose _ => "No cached session to log out"
  | .closed _ _ => "Logged out"
  | .closingFailed _ failure => "Logout call failed: " ++ failure.message
  | .sessionRejected .. => "Session rejected, renewing once"
  | .evictionFailed _ e => "Could not evict rejected session: " ++ e.message
  | .stillRejected _ _ => "Request still rejected after session renewal"
  | .poolDispatched _ _ => "Dispatching pooled requests"

/-- The slot of a client as a field. -/
def slotField (slot : UInt64) : String × String :=
  ("slot", toString slot)

/-- A status as a field. -/
def statusField (status : Http.Status) : String × String :=
  ("status", toString status)

/-- The fields of a notice. -/
def fields : Notice → List (String × String)
  | .unverifiedTls server => [("server", server)]
  | .bound slot poolSize => [slotField slot, ("pool_size", toString poolSize)]
  | .attemptFailed slot attempt _ _ | .attemptsExhausted slot attempt _
  | .established slot attempt => [slotField slot, ("attempt", toString attempt)]
  | .loginRejected slot status | .closed slot status | .stillRejected slot status =>
    [slotField slot, statusField status]
  | .sessionRejected slot status method endpoint =>
    [slotField slot, statusField status, ("method", method.text), ("endpoint", endpoint)]
  | .poolDispatched slot requests => [slotField slot, ("requests", toString requests)]
  | .reused slot | .loggingIn slot | .loginFailed slot _ | .cookieMissing slot
  | .cachingFailed slot _ | .nothingToClose slot | .closingFailed slot _
  | .evictionFailed slot _ => [slotField slot]

end Notice

end ODataSession
