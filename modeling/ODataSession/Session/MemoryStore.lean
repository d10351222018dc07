import ODataSession.Session.Clock
import ODataSession.Session.Store

/-!
# Sessions in memory

A store that keeps tokens in memory, each of them until a moment at which it expires. Whoever puts a
token or asks for one says which moment it is. A token that was put for too long a time expires
after the longest one, and a token that would expire at no moment that there is expires at once.
Expired tokens are dropped when someone asks for them, so that nobody ever gets one, but until then
they are counted.

On its own such a store knows no other moment than the start of the clock. For it time stands still:
a token that was put for no time at all is expired from the start, and any other one stays live. A
store for which time passes is a `ClockedStore`.
-/

namespace ODataSession

/-- What is kept under a key. -/
structure StoredToken where
  token : String
  expiresAt : Instant
  deriving DecidableEq, Repr, Inhabited

/-- Whether a token is still to be had at some moment. -/
def StoredToken.isLiveAt (t : StoredToken) (now : Instant) : Bool :=
  now < t.expiresAt

/-- Tokens under keys; no key occurs twice. -/
structure MemoryStore where
  entries : List (String × StoredToken)
  keys_nodup : (entries.map Prod.fst).Nodup
  deriving DecidableEq

namespace MemoryStore

/-- The longest time that a token is kept. -/
def longestLifetime : Duration := .ofSeconds (UInt32.size - 1)

/-- When a token expires that is put at some moment. -/
def expiry (now : Instant) (lifetime : Duration) : Instant :=
  (now.after? (min lifetime longestLifetime)).getD now

/-- The store without tokens. -/
def empty : MemoryStore := ⟨[], List.nodup_nil⟩

instance : Inhabited MemoryStore := ⟨empty⟩

/-- The number of tokens, expired ones included. -/
def size (s : MemoryStore) : Nat :=
  s.entries.length

/-- Whether nothing is kept. -/
def isEmpty (s : MemoryStore) : Bool :=
  s.entries.isEmpty

/-- What is kept under a key. -/
def find? (s : MemoryStore) (key : String) : Option StoredToken :=
  s.entries.lookup key

/-- Drops what is under a key. -/
def erase (s : MemoryStore) (key : String) : MemoryStore where
  entries := s.entries.filter (·.1 ≠ key)
  keys_nodup := s.keys_nodup.sublist (List.filter_sublist.map _)

/-- No entry of an erased key is left. -/
theorem not_mem_keys_erase (s : MemoryStore) (key : String) :
    key ∉ (s.erase key).entries.map Prod.fst := by
  simp [erase]

/-- Keeps an entry under a key in place of what is there. -/
def insert (s : MemoryStore) (key : String) (entry : StoredToken) : MemoryStore where
  entries := (key, entry) :: (s.erase key).entries
  keys_nodup := List.nodup_cons.2 ⟨s.not_mem_keys_erase key, (s.erase key).keys_nodup⟩

/-- Keeps a token under a key from some moment on. -/
def putAt (s : MemoryStore) (now : Instant) (key token : String) (lifetime : Duration) :
    MemoryStore :=
  s.insert key ⟨token, expiry now lifetime⟩

/-- The token under a key that is live at some moment; an expired one is dropped. -/
def getAt (s : MemoryStore) (now : Instant) (key : String) : Option String × MemoryStore :=
  match s.find? key with
  | some entry => if entry.isLiveAt now then (some entry.token, s) else (none, s.erase key)
  | none => (none, s)

/-- Keeps a token under a key for some seconds, with time standing still. -/
def put (s : MemoryStore) (key token : String) (seconds : Nat) : MemoryStore :=
  s.putAt .origin key token (.ofSeconds seconds)

/-- The live token under a key, with time standing still. -/
def get (s : MemoryStore) (key : String) : Option String × MemoryStore :=
  s.getAt .origin key

/-- Drops everything. -/
def clear (_ : MemoryStore) : MemoryStore :=
  empty

/-- Text that shows the number of tokens and no token. -/
def describe (s : MemoryStore) : String :=
  "MemorySessionStore \x7b entries: " ++ toString s.size ++ " \x7d"

instance : SessionStore MemoryStore where
  get s key :=
    let (token?, s) := s.get key
    (.ok token?, s)
  put s key token lifetime := (.ok (), s.putAt .origin key token lifetime)
  forget s key := (.ok (), s.erase key)

end MemoryStore

end ODataSession
