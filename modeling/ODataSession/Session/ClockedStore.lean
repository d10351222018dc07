import ODataSession.Session.MemoryStore

/-!
# Sessions in memory while time passes

A store in memory that reads a clock whenever a token is put or asked for. To drop a token takes no
reading.
-/

namespace ODataSession

/-- A store in memory and the clock that it reads. -/
structure ClockedStore where
  memory : MemoryStore
  clock : Clock
  deriving DecidableEq

namespace ClockedStore

/-- The store without tokens. -/
def empty (clock : Clock) : ClockedStore := ⟨.empty, clock⟩

/-- Keeps a token under a key from the moment that the clock shows. -/
def put (s : ClockedStore) (key token : String) (lifetime : Duration) : ClockedStore :=
  let (now, clock) := s.clock.read
  ⟨s.memory.putAt now key token lifetime, clock⟩

/-- The token under a key that is live at the moment that the clock shows. -/
def get (s : ClockedStore) (key : String) : Option String × ClockedStore :=
  let (now, clock) := s.clock.read
  let (token?, memory) := s.memory.getAt now key
  (token?, ⟨memory, clock⟩)

/-- Drops what is under a key. -/
def erase (s : ClockedStore) (key : String) : ClockedStore :=
  { s with memory := s.memory.erase key }

/-- Drops everything. -/
def clear (s : ClockedStore) : ClockedStore :=
  { s with memory := s.memory.clear }

instance : SessionStore ClockedStore where
  get s key :=
    let (token?, s) := s.get key
    (.ok token?, s)
  put s key token lifetime := (.ok (), s.put key token lifetime)
  forget s key := (.ok (), s.erase key)

end ClockedStore

end ODataSession
