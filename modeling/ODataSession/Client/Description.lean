import ODataSession.Client.Basic
import ODataSession.Text.Escaped

/-!
# Descriptions

Texts that show settings, setups and clients to whoever looks for a fault. A password is never
shown, and of a credential only that there is one.
-/

namespace ODataSession

/-- An optional value in words. -/
def describeOption : Option String → String
  | some text => "Some(" ++ text ++ ")"
  | none => "None"

/-- A record in words: its name and its fields in order; `more` says that there are others. -/
def describeRecord (name : String) (fields : List (String × String)) (more : Bool) : String :=
  let texts := fields.map fun (field, text) => field ++ ": " ++ text
  name ++ " \x7b " ++ ", ".intercalate (texts ++ if more then [".."] else []) ++ " \x7d"

/-- The policy in words. -/
def LoginRetry.describe (r : LoginRetry) : String :=
  describeRecord "LoginRetry"
    [("attempts", toString r.attempts), ("delay_ms", toString r.delayMilliseconds)] false

/-- A secret in words; the text is not shown. -/
def Secret.describe (_ : Secret) : String :=
  "SecretBox<str>([REDACTED])"

/-- The settings in words. -/
def Config.describe (c : Config) : String :=
  describeRecord "ServiceLayerConfig"
    [("server", Text.escaped c.server), ("database", Text.escaped c.database),
     ("username", Text.escaped c.username), ("password", c.password.describe),
     ("cache_ttl", toString c.cacheTtl), ("pool_size", toString c.poolSize),
     ("session_index", describeOption (c.sessionIndex.map toString)),
     ("verify_ssl", toString c.verifyTls), ("timeout", toString c.timeout),
     ("login_retry", c.loginRetry.describe)] false

/-- A setup in words, with its store if it has been given one. -/
def ClientSetup.describe (s : ClientSetup) (store : Option String) : String :=
  describeRecord "ClientBuilder"
    [("config", s.config.describe), ("store", describeOption store),
     ("slot", describeOption (s.slot.map toString)),
     ("seed", describeOption (s.seed.map toString))] true

/-- A client in words. -/
def Client.describe (c : Client) : String :=
  describeRecord "ServiceLayerClient"
    [("base_url", Text.escaped c.base.text), ("slot", toString c.slot),
     ("session_key", "SessionKey(" ++ Text.escaped c.key.text ++ ")"),
     ("credential", describeOption (c.credential.map (·.describe))),
     ("state", c.state.constantName)] true

end ODataSession
