import ODataSession.Config.Basic
import ODataSession.Json.Record

/-!
# Settings from JSON

Settings that are written as a JSON document. Every setting may be left out and then has its usual
value; settings of unknown names are skipped. Only the slot may be `null`.
-/

namespace ODataSession

/-- The largest number of 64 bits. -/
def largestUInt64 : Nat := UInt64.size - 1

/-- The largest number of 32 bits. -/
def largestUInt32 : Nat := UInt32.size - 1

/-- The policy for login attempts that a document has without its fields. -/
def LoginRetry.unwritten : LoginRetry where
  attempts := 3
  delayMilliseconds := 100

/-- The fields of a policy for login attempts. -/
def LoginRetry.fields : List (Json.Field LoginRetry) :=
  [.of "attempts" (Json.readNatural largestUInt32) fun r n => { r with attempts := .ofNat n },
   .of "delay_ms" (Json.readNatural largestUInt64) fun r n =>
    { r with delayMilliseconds := .ofNat n }]

namespace Config

/-- The settings that a document has without its fields. -/
def unwritten : Config where
  server := ""
  database := ""
  username := ""
  password := ⟨""⟩
  cacheTtl := 1800
  poolSize := 1
  sessionIndex := none
  verifyTls := true
  timeout := 30
  loginRetry := .standard

/-- The fields of the settings. -/
def fields : List (Json.Field Config) :=
  [.of "server" Json.readText fun c server => { c with server },
   .of "database" Json.readText fun c database => { c with database },
   .of "username" Json.readText fun c username => { c with username },
   .of "password" Json.readText fun c password => { c with password := ⟨password⟩ },
   .of "cache_ttl" (Json.readNatural largestUInt64) fun c n => { c with cacheTtl := .ofNat n },
   .of "pool_size" (Json.readNatural largestUInt64) fun c n => { c with poolSize := .ofNat n },
   .of "session_index" (Json.readNullable (Json.readNatural largestUInt64)) fun c n? =>
    { c with sessionIndex := n?.map .ofNat },
   .of "verify_ssl" Json.readFlag fun c verifyTls => { c with verifyTls },
   .of "timeout" (Json.readNatural largestUInt64) fun c n => { c with timeout := .ofNat n },
   .of "login_retry" (Json.readRecord LoginRetry.fields .unwritten) fun c loginRetry =>
    { c with loginRetry }]

/-- Reads settings from a JSON document. -/
def ofJson (text : String) : Except Json.RecordFault Config :=
  Json.parseRecord fields unwritten text

end Config

end ODataSession
