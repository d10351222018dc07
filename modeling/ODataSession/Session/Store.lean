import ODataSession.Session.Clock

/-!
# Session stores

What a client asks of a store of sessions. A store keeps a token under a key for some time, and
each of its operations may fail and may change the store even then. `has` is `get` without the
token unless a store has its own way to tell.
-/

namespace ODataSession

/-- Why a store refused an operation. -/
structure StoreError where
  reason : String
  deriving DecidableEq, Repr, Inhabited

/-- The operations of a store of sessions. -/
class SessionStore (σ : Type) where
  /-- The live token under a key. -/
  get : σ → String → Except StoreError (Option String) × σ
  /-- Keeps a token under a key for some time. -/
  put : σ → String → String → Duration → Except StoreError Unit × σ
  /-- Drops what is under a key, if anything is. -/
  forget : σ → String → Except StoreError Unit × σ
  /-- Whether a live token is under a key. -/
  has : σ → String → Except StoreError Bool × σ := fun s key =>
    let (found, s) := get s key
    (found.map Option.isSome, s)

end ODataSession
