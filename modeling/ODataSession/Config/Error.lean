/-!
# Configuration errors

What can be wrong with the settings of a client, with the variables that spell them, and with the
choice of a session slot.
-/

namespace ODataSession

/-- A setting that has to be given. -/
inductive RequiredSetting
  | server
  | database
  | username
  | password
  deriving DecidableEq, Repr, Inhabited

/-- The name of a required setting. -/
def RequiredSetting.name : RequiredSetting → String
  | .server => "server"
  | .database => "database"
  | .username => "username"
  | .password => "password"

/-- Why settings are refused. -/
inductive ConfigError
  /-- A required setting is blank. -/
  | missing (setting : RequiredSetting)
  /-- The pool has no slots. -/
  | emptyPool
  /-- Requests are given no time. -/
  | zeroTimeout
  /-- The configured slot lies outside the pool. -/
  | configuredSlot (index size : UInt64)
  /-- The chosen slot lies outside the pool. -/
  | chosenSlot (slot size : UInt64)
  /-- The value of a variable is not a natural number of 64 bits. -/
  | malformedNumber (name value : String)
  /-- The value of a variable is not a word for yes or no. -/
  | malformedFlag (name value : String)
  deriving DecidableEq, Repr, Inhabited

/-- The text shown for an error. -/
def ConfigError.message : ConfigError → String
  | .missing setting => "missing required configuration: " ++ setting.name
  | .emptyPool => "pool_size must be at least 1"
  | .zeroTimeout => "timeout must be at least 1 second"
  | .configuredSlot index size =>
    s!"session_index {index} is out of range for pool_size {size}"
  | .chosenSlot slot size => s!"session index {slot} is out of range for pool_size {size}"
  | .malformedNumber name value =>
    s!"{name} must be a non-negative integer, got '{value}'"
  | .malformedFlag name value => s!"{name} must be a boolean, got '{value}'"

end ODataSession
