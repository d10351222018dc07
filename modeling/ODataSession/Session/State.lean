/-!
# Session states

Where a client stands with its session.
-/

namespace ODataSession

/-- Where a client stands with its session. -/
inductive SessionState
  /-- There is no session, or it was closed. -/
  | unauthenticated
  /-- A session is held. -/
  | authenticated
  /-- The session was rejected and is being renewed. -/
  | retrying
  /-- The last attempt to get a session failed. -/
  | failed
  deriving DecidableEq, Repr, Inhabited

namespace SessionState

/-- The name of a state in lower case. -/
def text : SessionState → String
  | .unauthenticated => "unauthenticated"
  | .authenticated => "authenticated"
  | .retrying => "retrying"
  | .failed => "failed"

/-- The name of a state as a constant. -/
def constantName : SessionState → String
  | .unauthenticated => "Unauthenticated"
  | .authenticated => "Authenticated"
  | .retrying => "Retrying"
  | .failed => "Failed"

end SessionState

end ODataSession
