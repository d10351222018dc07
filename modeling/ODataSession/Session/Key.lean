import ODataSession.Digest.Sha256
import ODataSession.Text.Utf8

/-!
# Session keys

The key under which a store keeps the session of an identity on a slot. The server, the database
and the user are not visible in the key, only the digest of the three texts written one after the
other.
-/

namespace ODataSession

/-- The key of a session. -/
structure SessionKey where
  /-- The digest of the identity in hexadecimal. -/
  identity : String
  slot : UInt64
  deriving DecidableEq, Repr, Inhabited

namespace SessionKey

/-- The octets of an identity: the server, the database and the user, one after the other. -/
def identityOctets (server database username : String) : List UInt8 :=
  Utf8.encode (server.toList ++ database.toList ++ username.toList)

/-- The key of an identity on a slot. -/
def derive (server database username : String) (slot : UInt64) : SessionKey :=
  ⟨String.ofList (Sha256.digest (identityOctets server database username)).hexText, slot⟩

/-- The slot as it stands at the end of a key. -/
def slotText (k : SessionKey) : String :=
  toString k.slot.toNat

/-- The text of a key. -/
def text (k : SessionKey) : String :=
  "session:" ++ k.identity ++ ":" ++ k.slotText

end SessionKey

end ODataSession
