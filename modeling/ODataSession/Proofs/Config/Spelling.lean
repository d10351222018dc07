import Mathlib.Data.List.Induction
import ODataSession.Config.Environment
import ODataSession.Proofs.Text.Case

/-!
# How numbers and flags are spelled

The texts that are read as numbers of 64 bits, and as which one: decimal digits behind an optional
plus sign (`Config.isSome_readNumber?_iff`), which are those of the number behind any count of zeros
(`Config.readNumber?_eq_some_iff`). A flag has four words for yes and four for no, in either case of
their letters (`Config.readFlag?_eq_some_iff`).
-/

namespace ODataSession.Config

variable {s sign digits : List Char}

/-! ## Numbers -/

/-- A text that denotes a number of 64 bits: decimal digits, at least one, behind an optional plus
sign. -/
def IsNumber (s : List Char) : Prop :=
  ∃ sign digits, sign ∈ [[], ['+']] ∧ s = sign ++ digits ∧ digits ≠ [] ∧
    (∀ c ∈ digits, c.isDigit = true) ∧ Nat.ofDigitChars 10 digits 0 < UInt64.size

/-- How a number is spelled: as its decimal digits, behind any count of zeros and an optional plus
sign. -/
def SpellsNumber (s : List Char) (n : UInt64) : Prop :=
  ∃ sign zeros, sign ∈ [[], ['+']] ∧
    s = sign ++ (List.replicate zeros '0' ++ Nat.toDigits 10 n.toNat)

/-- A digit is the digit of its value. -/
theorem digitChar_of_isDigit {c : Char} (h : c.isDigit = true) :
    c.toNat - '0'.toNat < 10 ∧ Nat.digitChar (c.toNat - '0'.toNat) = c := by
  have hdigits : ∀ c : Char, c.toNat < 58 → c.isDigit = true →
      c.toNat - '0'.toNat < 10 ∧ Nat.digitChar (c.toNat - '0'.toNat) = c :=
    Text.forall_toNat_lt (by decide)
  exact hdigits c (Nat.lt_succ_of_le (of_decide_eq_true (Bool.and_eq_true_iff.1 h).2)) h

/-- Digits are those of the number that they denote, behind zeros. -/
theorem exists_eq_replicate_append (hne : digits ≠ []) (h : ∀ c ∈ digits, c.isDigit = true) :
    ∃ zeros, digits =
      List.replicate zeros '0' ++ Nat.toDigits 10 (Nat.ofDigitChars 10 digits 0) := by
  induction digits using List.reverseRecOn with
  | nil => exact absurd rfl hne
  | append_singleton front c ih =>
    obtain ⟨hlt, hchar⟩ := digitChar_of_isDigit (h c (by simp))
    have hvalue : Nat.ofDigitChars 10 (front ++ [c]) 0 =
        10 * Nat.ofDigitChars 10 front 0 + (c.toNat - '0'.toNat) := by
      rw [Nat.ofDigitChars_append, Nat.ofDigitChars_cons, Nat.ofDigitChars_nil]
    have hlast : Nat.toDigits 10 (c.toNat - '0'.toNat) = [c] := by
      rw [Nat.toDigits_of_lt_base hlt, hchar]
    rw [hvalue]
    by_cases hfront : front = []
    · subst hfront
      refine ⟨0, ?_⟩
      rw [Nat.ofDigitChars_nil, Nat.mul_zero, Nat.zero_add, hlast]
      rfl
    · obtain ⟨zeros, hzeros⟩ := ih hfront fun d hd => h d (List.mem_append_left _ hd)
      rcases Nat.eq_zero_or_pos (Nat.ofDigitChars 10 front 0) with hzero | hpos
      · -- All digits in front are zeros, the last one too, which the value does not show.
        rw [hzero] at hzeros ⊢
        refine ⟨zeros + 1, ?_⟩
        rw [Nat.mul_zero, Nat.zero_add, hlast, List.replicate_succ', hzeros]
        rfl
      · refine ⟨zeros, ?_⟩
        rw [← Nat.toDigits_append_toDigits (by decide) hpos hlt, hlast, ← List.append_assoc,
          ← hzeros]

/-- Digits are read by what they denote, whether a plus sign stands in front of them or not. -/
theorem readNumber?_append (hsign : sign ∈ [[], ['+']]) (hne : digits ≠ [])
    (h : ∀ c ∈ digits, c.isDigit = true) : readNumber? (sign ++ digits) =
      if Nat.ofDigitChars 10 digits 0 < UInt64.size then
        some (UInt64.ofNat (Nat.ofDigitChars 10 digits 0))
      else none := by
  have hall : (digits.isEmpty || !digits.all Char.isDigit) = false := by
    rw [List.isEmpty_eq_false_iff.2 hne, List.all_eq_true.2 h]
    rfl
  have hplus : ∀ rest, digits ≠ '+' :: rest := by
    rintro rest rfl
    cases h '+' List.mem_cons_self
  simp only [List.mem_cons, List.not_mem_nil, or_false] at hsign
  rcases hsign with rfl | rfl
  · rw [List.nil_append, readNumber?, hall]
    · rfl
    · exact hplus
  · rw [List.singleton_append, readNumber?, hall]
    rfl

/-- What is read as a number is digits behind an optional plus sign. -/
theorem exists_eq_append_of_readNumber? (h : (readNumber? s).isSome) :
    ∃ sign digits, sign ∈ [[], ['+']] ∧ s = sign ++ digits ∧ digits ≠ [] ∧
      ∀ c ∈ digits, c.isDigit = true := by
  have hdigits : ∀ digits : List Char,
      ¬(digits.isEmpty || !digits.all Char.isDigit) = true →
        digits ≠ [] ∧ ∀ c ∈ digits, c.isDigit = true := by
    intro digits hno
    simpa using hno
  rw [readNumber?.eq_def] at h
  dsimp only at h
  split at h
  · next rest =>
    split at h
    · cases h
    · next hno => exact ⟨['+'], rest, by simp, rfl, hdigits _ hno⟩
  · split at h
    · cases h
    · next hno => exact ⟨[], s, by simp, rfl, hdigits _ hno⟩

/-- The texts that are read as numbers. -/
theorem isSome_readNumber?_iff : (readNumber? s).isSome ↔ IsNumber s := by
  constructor
  · intro h
    obtain ⟨sign, digits, hsign, rfl, hne, hdigits⟩ := exists_eq_append_of_readNumber? h
    rw [readNumber?_append hsign hne hdigits] at h
    split at h
    · next hlt => exact ⟨sign, digits, hsign, rfl, hne, hdigits, hlt⟩
    · cases h
  · rintro ⟨sign, digits, hsign, rfl, hne, hdigits, hlt⟩
    rw [readNumber?_append hsign hne hdigits, if_pos hlt]
    rfl

/-- The texts that are read as one number. -/
theorem readNumber?_eq_some_iff {n : UInt64} : readNumber? s = some n ↔ SpellsNumber s n := by
  constructor
  · intro h
    obtain ⟨sign, digits, hsign, rfl, hne, hdigits⟩ :=
      exists_eq_append_of_readNumber? (Option.isSome_of_eq_some h)
    rw [readNumber?_append hsign hne hdigits] at h
    split at h
    · next hlt =>
      obtain ⟨zeros, hzeros⟩ := exists_eq_replicate_append hne hdigits
      obtain rfl := Option.some.inj h
      exact ⟨sign, zeros, hsign, by rw [UInt64.toNat_ofNat_of_lt' hlt, ← hzeros]⟩
    · cases h
  · rintro ⟨sign, zeros, hsign, rfl⟩
    have hdigits : ∀ c ∈ List.replicate zeros '0' ++ Nat.toDigits 10 n.toNat,
        c.isDigit = true := by
      intro c hc
      rcases List.mem_append.1 hc with hc | hc
      · rw [List.eq_of_mem_replicate hc]
        rfl
      · exact Nat.isDigit_of_mem_toDigits (by decide) (by decide) hc
    have hvalue : Nat.ofDigitChars 10 (List.replicate zeros '0' ++ Nat.toDigits 10 n.toNat) 0 =
        n.toNat := by
      rw [Nat.ofDigitChars_append, Nat.ofDigitChars_replicate_zero, Nat.mul_zero,
        Nat.ofDigitChars_ten_toDigits]
    rw [readNumber?_append hsign (List.append_ne_nil_of_right_ne_nil _ Nat.toDigits_ne_nil) hdigits,
      hvalue, if_pos n.toNat_lt_size, UInt64.ofNat_toNat]

/-! ## Flags -/

/-- The words for yes and no. -/
def flagWords : List (String × Bool) :=
  [("1", true), ("true", true), ("yes", true), ("on", true),
    ("0", false), ("false", false), ("no", false), ("off", false)]

/-- How a flag is spelled: as one of its words, in either case of the letters. -/
def SpellsFlag (s : List Char) (b : Bool) : Prop :=
  ∃ word, (word, b) ∈ flagWords ∧ Text.SameLetters word (String.ofList s)

/-- A flag is read by the lower case of its word. -/
theorem readFlag?_eq_some_iff_mem {b : Bool} :
    readFlag? s = some b ↔ ((String.ofList s).toLower, b) ∈ flagWords := by
  have hlower : String.ofList (s.map Char.toLower) = (String.ofList s).toLower := by
    change _ = (String.ofList s).map Char.toLower
    rw [← String.toList_inj, String.toList_map, String.toList_ofList, String.toList_ofList]
  rw [readFlag?, hlower]
  generalize (String.ofList s).toLower = word
  constructor
  · intro h
    split at h <;> cases h <;> simp [flagWords]
  · intro h
    simp only [flagWords, List.mem_cons, Prod.mk.injEq, List.not_mem_nil, or_false] at h
    rcases h with ⟨rfl, rfl⟩ | ⟨rfl, rfl⟩ | ⟨rfl, rfl⟩ | ⟨rfl, rfl⟩ | ⟨rfl, rfl⟩ | ⟨rfl, rfl⟩ |
      ⟨rfl, rfl⟩ | ⟨rfl, rfl⟩ <;> rfl

/-- The words of flags are in lower case. -/
theorem toLower_of_mem_flagWords {p : String × Bool} (h : p ∈ flagWords) :
    p.1.toLower = p.1 := by
  have hall : ∀ p ∈ flagWords, p.1.toList.map Char.toLower = p.1.toList := by decide
  change p.1.map Char.toLower = p.1
  rw [← String.toList_inj, String.toList_map, hall p h]

/-- The texts that are read as a flag. -/
theorem readFlag?_eq_some_iff {b : Bool} : readFlag? s = some b ↔ SpellsFlag s b := by
  rw [readFlag?_eq_some_iff_mem]
  constructor
  · intro hmem
    exact ⟨_, hmem, Text.sameLetters_of_toLower_eq (toLower_of_mem_flagWords hmem)⟩
  · rintro ⟨word, hmem, hsame⟩
    rw [← hsame.toLower_eq, toLower_of_mem_flagWords hmem]
    exact hmem

end ODataSession.Config
