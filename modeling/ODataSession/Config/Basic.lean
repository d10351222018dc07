import ODataSession.Config.Error
import ODataSession.Text.Blank

/-!
# Settings of a client

The server, the identity that logs in to it, and how sessions are kept and requests are sent. Times
are whole seconds, except for the pause between login attempts. `validate` says whether a session
can be opened with the settings, and names the first setting that stands in the way.
-/

namespace ODataSession

/-- A text that is not shown. -/
structure Secret where
  reveal : String
  deriving DecidableEq, Inhabited

/-- How often a login that does not reach the server is tried, and the pause in between. -/
structure LoginRetry where
  attempts : UInt32
  delayMilliseconds : UInt64
  deriving DecidableEq, Repr, Inhabited

namespace LoginRetry

/-- Three attempts, a tenth of a second apart. -/
def standard : LoginRetry := ⟨3, 100⟩

/-- A single attempt. -/
def single : LoginRetry := ⟨1, 0⟩

/-- The number of attempts; the first one is always made. -/
def limit (r : LoginRetry) : UInt32 :=
  max r.attempts 1

/-- The pause behind an attempt, counted from one, unless it was the last. -/
def delay? (r : LoginRetry) (attempt : UInt32) : Option UInt64 :=
  if r.limit ≤ attempt then none else some r.delayMilliseconds

end LoginRetry

/-- The settings of a client. -/
structure Config where
  server : String
  database : String
  username : String
  password : Secret
  /-- How long a session is kept in the store, in seconds. -/
  cacheTtl : UInt64
  /-- The number of session slots of the identity. -/
  poolSize : UInt64
  /-- The slot to use, if it is not chosen otherwise. -/
  sessionIndex : Option UInt64
  /-- Whether the certificate of the server is checked. -/
  verifyTls : Bool
  /-- How long a request may take, in seconds. -/
  timeout : UInt64
  loginRetry : LoginRetry
  deriving DecidableEq, Inhabited

namespace Config

/-- The settings of nobody: no server, no identity, and the usual value elsewhere. -/
def standard : Config where
  server := ""
  database := ""
  username := ""
  password := ⟨""⟩
  cacheTtl := 1800
  poolSize := 1
  sessionIndex := none
  verifyTls := true
  timeout := 30
  loginRetry := .standard

/-- The usual settings for an identity on a server. -/
def ofIdentity (server database username password : String) : Config :=
  { standard with server, database, username, password := ⟨password⟩ }

/-- The required settings in the order in which they are checked, and whether each is missing. A
password may be blank but not empty. -/
def requirements (c : Config) : List (RequiredSetting × Bool) :=
  [(.server, Text.isBlankText c.server), (.database, Text.isBlankText c.database),
   (.username, Text.isBlankText c.username), (.password, c.password.reveal.isEmpty)]

/-- The first required setting that is missing. -/
def firstMissing? (c : Config) : Option RequiredSetting :=
  (c.requirements.find? (·.2)).map (·.1)

/-- The configured slot, if it lies outside the pool. -/
def strayIndex? (c : Config) : Option UInt64 :=
  c.sessionIndex.filter (c.poolSize ≤ ·)

/-- Checks that a session can be opened with the settings. -/
def validate (c : Config) : Except ConfigError Unit :=
  match c.firstMissing? with
  | some setting => .error (.missing setting)
  | none =>
    if c.poolSize = 0 then .error .emptyPool
    else if c.timeout = 0 then .error .zeroTimeout
    else match c.strayIndex? with
      | some index => .error (.configuredSlot index c.poolSize)
      | none => .ok ()

end Config

end ODataSession
