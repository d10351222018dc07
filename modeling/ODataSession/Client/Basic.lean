import ODataSession.Client.Notice
import ODataSession.Config.Basic
import ODataSession.Http.Backend
import ODataSession.Session.Credential
import ODataSession.Session.Key
import ODataSession.Session.Slot
import ODataSession.Session.State
import ODataSession.Url.Endpoint

/-!
# Clients

A client is bound to one slot of one identity. It holds the credential of its session, if it has
one, and the headers that wait for the next request. `ClientSetup.build` binds a client without
sending anything; the session is opened by the first operation that needs it.
-/

namespace ODataSession

/-- A client. -/
structure Client where
  config : Config
  /-- The headers that every request gets unless it has one of the same name. -/
  standing : List Http.Header
  base : Url
  slot : UInt64
  key : SessionKey
  credential : Option Credential
  /-- The headers that wait for the next request. -/
  queued : List Http.Header
  state : SessionState
  deriving Inhabited

/-- The media type of JSON. -/
def jsonType : String := "application/json"

namespace Client

/-- Whether the client takes itself for logged in. -/
def isAuthenticated (c : Client) : Bool :=
  c.state = .authenticated && c.credential.isSome

/-- Takes a credential as that of a good session. -/
def adopt (c : Client) (credential : Credential) : Client :=
  { c with credential := some credential, state := .authenticated }

/-- Notes that a session was not to be had. -/
def failed (c : Client) : Client :=
  { c with state := .failed }

/-- Gives up the credential and changes the state. -/
def withoutCredential (c : Client) (state : SessionState) : Client :=
  { c with credential := none, state }

/-- Queues headers for the next request. Either all of them are legal and take the place of queued
ones with their names, or nothing is queued. -/
def withHeaders (c : Client) (pairs : List (String × String)) : Except Http.HeaderError Client := do
  let headers ← pairs.mapM fun (name, value) => Http.Header.ofPair name value
  return { c with queued := headers.foldl Http.Headers.set c.queued }

end Client

/-- The HTTP layer of a client. -/
inductive HttpLayer
  /-- Made for the settings: requests ask for JSON and carry JSON unless they say otherwise. -/
  | configured
  /-- Brought along: requests ask for anything unless they say otherwise. -/
  | plain
  deriving DecidableEq, Repr, Inhabited

/-- The headers that a layer gives to every request. -/
def HttpLayer.standing : HttpLayer → List Http.Header
  | .configured => [.accept jsonType, .contentType jsonType]
  | .plain => [.accept "*/*"]

/-- What a client is made from. -/
structure ClientSetup where
  config : Config
  slot : Option UInt64
  seed : Option UInt64
  http : HttpLayer
  deriving Inhabited

namespace ClientSetup

/-- The setup with nothing but the settings. -/
def ofConfig (config : Config) : ClientSetup :=
  ⟨config, none, none, .configured⟩

/-- The notices of a client that was built on a slot. -/
def notices (s : ClientSetup) (slot : UInt64) : List Notice :=
  (if s.http = .configured && !s.config.verifyTls then [.unverifiedTls s.config.server] else []) ++
    [.bound slot s.config.poolSize]

/-- The source of random numbers of a setup: that of its seed, if it has one. -/
def source {γ : Type} [RandomSource γ] (s : ClientSetup) (fresh : γ) : γ :=
  (s.seed.map RandomSource.ofSeed).getD fresh

/-- Builds a client, drawing from a fresh source if there is no seed. The settings are checked
first, then the slot, then the server. -/
def build {γ : Type} [RandomSource γ] (s : ClientSetup) (fresh : γ) :
    Except ClientError (Client × List Notice) := do
  (s.config.validate).mapError .configuration
  let slot ← (Slot.choose s.slot s.config.sessionIndex s.config.poolSize
    (s.source fresh)).1.mapError .configuration
  let base ← (Url.ofServer s.config.server).mapError .invalidUrl
  let key := SessionKey.derive s.config.server s.config.database s.config.username slot
  return (⟨s.config, s.http.standing, base, slot, key, none, [], .unauthenticated⟩,
    s.notices slot)

end ClientSetup

end ODataSession
