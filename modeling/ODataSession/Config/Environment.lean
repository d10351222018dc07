import ODataSession.Config.Basic

/-!
# Settings from variables

Settings that are spelled by variables with a common beginning. A blank variable counts as absent,
and an absent one leaves the usual value. Numbers and flags may stand between blanks; a value that
spells neither is an error and never falls back on the usual value.
-/

namespace ODataSession

namespace Config

/-- The full name of a variable. -/
def variableName (name : String) : String :=
  "SERVICE_LAYER_" ++ name

/-- Reads a natural number of 64 bits: decimal digits, at least one, behind an optional plus
sign. -/
def readNumber? (s : List Char) : Option UInt64 :=
  let digits := match s with
    | '+' :: rest => rest
    | s => s
  if digits.isEmpty || !digits.all Char.isDigit then none
  else
    let n := Nat.ofDigitChars 10 digits 0
    if n < UInt64.size then some (UInt64.ofNat n) else none

/-- Reads a word for yes or no without regard to ASCII case. -/
def readFlag? (s : List Char) : Option Bool :=
  match String.ofList (s.map Char.toLower) with
  | "1" | "true" | "yes" | "on" => some true
  | "0" | "false" | "no" | "off" => some false
  | _ => none

section
variable (lookup : String → Option String)

/-- The value of a variable that is not blank. -/
def given? (name : String) : Option String :=
  (lookup (variableName name)).filter (!Text.isBlankText ·)

/-- The number that a variable spells, if it is there. -/
def numberOf (name : String) : Except ConfigError (Option UInt64) :=
  match given? lookup name with
  | none => .ok none
  | some raw =>
    match readNumber? (Text.trimBy Text.isBlank raw.toList) with
    | some n => .ok (some n)
    | none => .error (.malformedNumber (variableName name) raw)

/-- The flag that a variable spells, if it is there. -/
def flagOf (name : String) : Except ConfigError (Option Bool) :=
  match given? lookup name with
  | none => .ok none
  | some raw =>
    match readFlag? (Text.trimBy Text.isBlank raw.toList) with
    | some b => .ok (some b)
    | none => .error (.malformedFlag (variableName name) raw)

/-- The text of a variable; nothing if it is absent. -/
def textOf (name : String) : String :=
  (given? lookup name).getD ""

/-- The settings that variables spell. -/
def ofLookup : Except ConfigError Config := do
  let base := ofIdentity (textOf lookup "SERVER") (textOf lookup "DATABASE")
    (textOf lookup "USERNAME") (textOf lookup "PASSWORD")
  let cacheTtl ← numberOf lookup "CACHE_TTL"
  let poolSize ← numberOf lookup "POOL_SIZE"
  let sessionIndex ← numberOf lookup "SESSION_INDEX"
  let verifyTls ← flagOf lookup "VERIFY_SSL"
  let timeout ← numberOf lookup "TIMEOUT"
  return { base with
    cacheTtl := cacheTtl.getD base.cacheTtl
    poolSize := poolSize.getD base.poolSize
    sessionIndex
    verifyTls := verifyTls.getD base.verifyTls
    timeout := timeout.getD base.timeout }

end

end Config

end ODataSession
