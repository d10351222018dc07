import ODataSession.Config.Basic

/-!
# Valid settings

The settings that pass the check are those with which a session can be opened
(`Config.validate_eq_ok_iff`): an identity on a server is given, requests have time, the pool has
slots, and the configured slot is one of them.
-/

namespace ODataSession.Config

/-- Settings with which a session can be opened. -/
structure IsValid (c : Config) : Prop where
  server : Text.isBlankText c.server = false
  database : Text.isBlankText c.database = false
  username : Text.isBlankText c.username = false
  password : c.password.reveal ≠ ""
  poolSize_pos : 0 < c.poolSize
  timeout_pos : 0 < c.timeout
  index_lt : ∀ index, c.sessionIndex = some index → index < c.poolSize

/-- Nothing is missing if each required setting is there. -/
theorem firstMissing?_eq_none_iff {c : Config} : c.firstMissing? = none ↔
    Text.isBlankText c.server = false ∧ Text.isBlankText c.database = false ∧
      Text.isBlankText c.username = false ∧ c.password.reveal ≠ "" := by
  simp [firstMissing?, requirements]

/-- The configured slot does not lie outside the pool if it is one of its slots or not there. -/
theorem strayIndex?_eq_none_iff {c : Config} :
    c.strayIndex? = none ↔ ∀ index, c.sessionIndex = some index → index < c.poolSize := by
  simp [strayIndex?, Option.filter_eq_none_iff]

/-- Exactly the valid settings pass the check. -/
theorem validate_eq_ok_iff {c : Config} : c.validate = .ok () ↔ c.IsValid := by
  have hpos : ∀ n : UInt64, n ≠ 0 ↔ 0 < n := fun n => UInt64.pos_iff_ne_zero.symm
  constructor
  · intro h
    unfold validate at h
    split at h
    · cases h
    · next hmissing =>
      obtain ⟨hserver, hdatabase, husername, hpassword⟩ := firstMissing?_eq_none_iff.1 hmissing
      split at h
      · cases h
      · next hpool =>
        split at h
        · cases h
        · next htimeout =>
          split at h
          · cases h
          · next hstray =>
            exact ⟨hserver, hdatabase, husername, hpassword, (hpos _).1 hpool, (hpos _).1 htimeout,
              strayIndex?_eq_none_iff.1 hstray⟩
  · intro h
    have hmissing := firstMissing?_eq_none_iff.2 ⟨h.server, h.database, h.username, h.password⟩
    rw [validate, hmissing, strayIndex?_eq_none_iff.2 h.index_lt]
    dsimp only
    rw [if_neg ((hpos _).2 h.poolSize_pos), if_neg ((hpos _).2 h.timeout_pos)]

end ODataSession.Config
