import ODataSession.Config.Environment
import ODataSession.Proofs.Config.Validity
import ODataSession.Proofs.Text.Case
import ODataSession.Proofs.Text.Parts

/-!
# Settings spelled by variables

Variables that spell valid settings are read back as the settings
(`Config.ofLookup_of_spelledBy`): no required text is blank, a number is read back from its decimal
digits and a flag from its word, and neither has blanks around it that trimming could take away.
Only a blank password is lost. It passes the check, as it is not empty, but a blank variable counts
as absent.
-/

namespace ODataSession

/-- No letter and no digit is blank. -/
theorem Text.isBlank_eq_false_of_isAlphanum {c : Char} (h : c.isAlphanum = true) :
    isBlank c = false := by
  have hletters : ∀ c : Char, c.toNat < 123 → c.isAlphanum = true → isBlank c = false :=
    forall_toNat_lt (by decide)
  exact hletters c (toNat_lt_of_isAlphanum h) h

namespace Config

/-- Variables that spell settings: texts as they are, numbers in decimal, flags as words, and the
slot only if there is one. How often a login is tried is not spelled. -/
structure SpelledBy (c : Config) (lookup : String → Option String) : Prop where
  server : lookup (variableName "SERVER") = some c.server
  database : lookup (variableName "DATABASE") = some c.database
  username : lookup (variableName "USERNAME") = some c.username
  password : lookup (variableName "PASSWORD") = some c.password.reveal
  cacheTtl : lookup (variableName "CACHE_TTL") = some (toString c.cacheTtl)
  poolSize : lookup (variableName "POOL_SIZE") = some (toString c.poolSize)
  sessionIndex : lookup (variableName "SESSION_INDEX") = c.sessionIndex.map toString
  verifyTls : lookup (variableName "VERIFY_SSL") = some (toString c.verifyTls)
  timeout : lookup (variableName "TIMEOUT") = some (toString c.timeout)

/-- The variables that spell settings, and no others. -/
def spelling (c : Config) (name : String) : Option String :=
  let values : List (String × Option String) :=
    [("SERVER", c.server), ("DATABASE", c.database), ("USERNAME", c.username),
      ("PASSWORD", c.password.reveal), ("CACHE_TTL", toString c.cacheTtl),
      ("POOL_SIZE", toString c.poolSize), ("SESSION_INDEX", c.sessionIndex.map toString),
      ("VERIFY_SSL", toString c.verifyTls), ("TIMEOUT", toString c.timeout)]
  (values.find? (variableName ·.1 = name)).bind (·.2)

/-- Different variables have different names. -/
theorem variableName_inj {name name' : String} :
    variableName name = variableName name' ↔ name = name' := by
  simp [variableName]

/-- All settings are spelled by some variables. -/
theorem spelledBy_spelling (c : Config) : c.SpelledBy c.spelling := by
  constructor <;> simp [spelling, variableName_inj]

/-! ## Single variables -/

section
variable {lookup : String → Option String} {name raw : String}

/-- A text that is not blank is the text of its variable. -/
theorem given?_of_not_blank (h : lookup (variableName name) = some raw)
    (hraw : Text.isBlankText raw = false) : given? lookup name = some raw := by
  rw [given?, h, Option.filter_some, hraw]
  rfl

/-- A blank text is the text of no variable. -/
theorem given?_of_blank (h : lookup (variableName name) = some raw)
    (hraw : Text.isBlankText raw = true) : given? lookup name = none := by
  rw [given?, h, Option.filter_some, hraw]
  rfl

/-- A word of letters and digits is not blank, and there is nothing to trim. -/
theorem given?_of_isAlphanum (h : lookup (variableName name) = some raw) (hne : raw.toList ≠ [])
    (hraw : ∀ c ∈ raw.toList, c.isAlphanum = true) :
    given? lookup name = some raw ∧ Text.trimBy Text.isBlank raw.toList = raw.toList := by
  have hblank : ∀ c ∈ raw.toList, Text.isBlank c = false := fun c hc =>
    Text.isBlank_eq_false_of_isAlphanum (hraw c hc)
  refine ⟨given?_of_not_blank h ?_, Text.trimBy_of_forall_not hblank⟩
  obtain ⟨c, rest, hcons⟩ := List.exists_cons_of_ne_nil hne
  have hc := hblank c (by simp [hcons])
  simp [Text.isBlankText, hcons, hc]

/-- A number is read back from its decimal digits. -/
theorem readNumber?_toDigits (n : UInt64) :
    readNumber? (Nat.toDigits 10 n.toNat) = some n := by
  have hdigits : ∀ c ∈ Nat.toDigits 10 n.toNat, c.isDigit = true := fun c hc =>
    Nat.isDigit_of_mem_toDigits (by decide) (by decide) hc
  have hplus : ∀ rest, Nat.toDigits 10 n.toNat ≠ '+' :: rest := by
    intro rest h
    cases hdigits '+' (by simp [h])
  have hall : (Nat.toDigits 10 n.toNat).all Char.isDigit = true := List.all_eq_true.2 hdigits
  have hne : (Nat.toDigits 10 n.toNat).isEmpty = false :=
    Bool.eq_false_iff.2 fun h => Nat.toDigits_ne_nil (List.isEmpty_iff.1 h)
  rw [readNumber?, hall, hne]
  · simp [Nat.ofDigitChars_ten_toDigits, n.toNat_lt_size]
  · exact hplus

/-- A variable that spells a number is read as the number. -/
theorem numberOf_of_spelled {n : UInt64} (h : lookup (variableName name) = some (toString n)) :
    numberOf lookup name = .ok (some n) := by
  have hchars : (toString n).toList = Nat.toDigits 10 n.toNat := Nat.toList_repr
  have hwords : ∀ c ∈ (toString n).toList, c.isAlphanum = true := by
    intro c hc
    rw [hchars] at hc
    simp [Char.isAlphanum, Nat.isDigit_of_mem_toDigits (by decide) (by decide) hc]
  obtain ⟨hgiven, htrim⟩ := given?_of_isAlphanum h (hchars ▸ Nat.toDigits_ne_nil) hwords
  rw [numberOf, hgiven]
  dsimp only
  rw [htrim, hchars, readNumber?_toDigits]

/-- A variable that spells a flag is read as the flag. -/
theorem flagOf_of_spelled {b : Bool} (h : lookup (variableName name) = some (toString b)) :
    flagOf lookup name = .ok (some b) := by
  have hwords : (toString b).toList.all Char.isAlphanum = true := by cases b <;> decide
  have hne : (toString b).toList ≠ [] := by cases b <;> decide
  have hread : readFlag? (toString b).toList = some b := by cases b <;> decide
  obtain ⟨hgiven, htrim⟩ := given?_of_isAlphanum h hne (List.all_eq_true.1 hwords)
  rw [flagOf, hgiven]
  dsimp only
  rw [htrim, hread]

/-- An absent variable spells no number. -/
theorem numberOf_of_absent (h : lookup (variableName name) = none) :
    numberOf lookup name = .ok none := by
  rw [numberOf, given?, h]
  rfl

end

/-! ## All variables -/

/-- What a text is worth as a variable: nothing if it is blank. -/
def ofVariable (s : Secret) : Secret :=
  if Text.isBlankText s.reveal then ⟨""⟩ else s

/-- Variables that spell valid settings are read back as the settings with the usual attempts to log
in, but for a blank password, which is lost. -/
theorem ofLookup_eq {c : Config} (hvalid : c.IsValid) {lookup : String → Option String}
    (h : c.SpelledBy lookup) : ofLookup lookup =
      .ok { c with password := ofVariable c.password, loginRetry := .standard } := by
  have htext : ∀ {name raw}, lookup (variableName name) = some raw →
      Text.isBlankText raw = false → textOf lookup name = raw := by
    intro name raw hname hraw
    rw [textOf, given?_of_not_blank hname hraw]
    rfl
  have hpassword : textOf lookup "PASSWORD" = (ofVariable c.password).reveal := by
    rw [ofVariable]
    split
    · next hblank =>
      rw [textOf, given?_of_blank h.password hblank]
      rfl
    · next hblank => exact htext h.password (Bool.eq_false_iff.2 hblank)
  have hindex : numberOf lookup "SESSION_INDEX" = .ok c.sessionIndex := by
    have hspelled := h.sessionIndex
    cases hc : c.sessionIndex with
    | none =>
      rw [hc] at hspelled
      exact numberOf_of_absent hspelled
    | some index =>
      rw [hc] at hspelled
      exact numberOf_of_spelled hspelled
  rw [ofLookup, htext h.server hvalid.server, htext h.database hvalid.database,
    htext h.username hvalid.username, hpassword, numberOf_of_spelled h.cacheTtl,
    numberOf_of_spelled h.poolSize, hindex, flagOf_of_spelled h.verifyTls,
    numberOf_of_spelled h.timeout]
  rfl

/-- Variables that spell settings which pass the check and have the usual attempts to log in are
read back as the same settings, unless the password is blank. A blank password is the only thing
that is lost, and is then reported as missing. -/
theorem ofLookup_of_spelledBy {c : Config} (hvalid : c.validate = .ok ())
    (hretry : c.loginRetry = .standard) {lookup : String → Option String}
    (h : c.SpelledBy lookup) :
    (Text.isBlankText c.password.reveal = false → ofLookup lookup = .ok c) ∧
      (Text.isBlankText c.password.reveal = true →
        ofLookup lookup = .ok { c with password := ⟨""⟩ } ∧
          validate { c with password := ⟨""⟩ } = .error (.missing .password)) := by
  have hvalid := validate_eq_ok_iff.1 hvalid
  have hlookup := ofLookup_eq hvalid h
  rw [← hretry] at hlookup
  refine ⟨fun hblank => ?_, fun hblank => ⟨?_, ?_⟩⟩
  · rw [hlookup, ofVariable, hblank]
    rfl
  · rw [hlookup, ofVariable, hblank]
    rfl
  · rw [validate, firstMissing?, requirements]
    simp [hvalid.server, hvalid.database, hvalid.username]

/-- Settings with a large number, a slot and blanks around texts. -/
def sampleLarge : Config :=
  { ofIdentity " https://sl.example/b1s/v1/ " "DB" "manager" " secret" with
    cacheTtl := 18446744073709551615, poolSize := 4, sessionIndex := some 3, verifyTls := false }

/-- The largest number, the slot and the blanks are read back. -/
theorem ofLookup_of_spelledBy_large :
    sampleLarge.validate = .ok () ∧ sampleLarge.loginRetry = .standard ∧
      sampleLarge.SpelledBy sampleLarge.spelling ∧
      ofLookup sampleLarge.spelling = .ok sampleLarge := by
  have hvalid : sampleLarge.validate = .ok () := by decide
  have hspelled := sampleLarge.spelledBy_spelling
  exact ⟨hvalid, rfl, hspelled, (ofLookup_of_spelledBy hvalid rfl hspelled).1 (by decide)⟩

/-- Settings whose password is one space. -/
def sampleBlank : Config :=
  ofIdentity "https://sl.example/b1s/v1/" "DB" "manager" " "

/-- A password of one space passes the check, but the variable that spells it counts as absent, and
what is read does not pass the check. -/
theorem ofLookup_ne_of_blank_password :
    sampleBlank.validate = .ok () ∧ sampleBlank.loginRetry = .standard ∧
      sampleBlank.SpelledBy sampleBlank.spelling ∧
      ofLookup sampleBlank.spelling ≠ .ok sampleBlank ∧
      ∀ c, ofLookup sampleBlank.spelling = .ok c → c.validate = .error (.missing .password) := by
  have hvalid : sampleBlank.validate = .ok () := by decide
  have hlost : ofLookup sampleBlank.spelling = .ok { sampleBlank with password := ⟨""⟩ } :=
    ofLookup_eq (validate_eq_ok_iff.1 hvalid) sampleBlank.spelledBy_spelling
  rw [hlost]
  refine ⟨hvalid, rfl, sampleBlank.spelledBy_spelling, by decide, fun c hc => ?_⟩
  obtain rfl := Except.ok.inj hc
  decide

end Config

end ODataSession
