import Mathlib.Data.List.Forall2
import ODataSession.Proofs.Text.Octets

/-!
# The case of letters

Only the letters of ASCII have a second case here, and every other character is its own lower case.
So texts that differ in nothing but the case of such letters have one lower case
(`Text.SameLetters.toLower_eq`), and whatever is read without regard to case is the same for both.
No other texts have the same lower case (`Text.sameLetters_of_toLower_eq`).
-/

namespace ODataSession.Text

/-- A character is its own lower case unless it is a capital letter. -/
theorem toLower_of_not_isUpper {c : Char} (h : c.isUpper = false) : c.toLower = c :=
  dif_neg (of_decide_eq_false h)

/-- The last capital letter is `Z`. -/
theorem toNat_lt_of_isUpper {c : Char} (h : c.isUpper = true) : c.toNat < 91 :=
  Nat.lt_succ_of_le (of_decide_eq_true h).2

/-- The last of the ASCII letters and digits is `z`. -/
theorem toNat_lt_of_isAlphanum {c : Char} (h : c.isAlphanum = true) : c.toNat < 123 := by
  change (decide (c.val ≥ 65 ∧ c.val ≤ 90) || (c.val ≥ 97 && c.val ≤ 122) ||
    (c.val ≥ 48 && c.val ≤ 57)) = true at h
  simp only [ge_iff_le, UInt32.le_iff_toNat_le, UInt32.reduceToNat, Char.toNat_val, Bool.or_eq_true,
    Bool.and_eq_true, decide_eq_true_eq] at h
  omega

/-- A lower case has no other lower case. -/
theorem toLower_toLower (c : Char) : c.toLower.toLower = c.toLower := by
  have hcapitals : ∀ c : Char, c.toNat < 91 → c.isUpper = true → c.toLower.toLower = c.toLower :=
    forall_toNat_lt (by decide)
  cases hupper : c.isUpper with
  | false => rw [toLower_of_not_isUpper hupper, toLower_of_not_isUpper hupper]
  | true => exact hcapitals c (toNat_lt_of_isUpper hupper) hupper

/-- A letter has one lower case in both of its cases. -/
theorem toLower_toUpper (c : Char) : c.toUpper.toLower = c.toLower := by
  have hletters : ∀ c : Char, c.toNat < 123 → c.toUpper.toLower = c.toLower :=
    forall_toNat_lt (by decide)
  by_cases hbound : c.toNat < 123
  · exact hletters c hbound
  · have hsame : c.toUpper = c := dif_neg fun h => hbound (Nat.lt_succ_of_le h.2)
    rw [hsame]

/-- A capital letter is the capital of its lower case. -/
theorem toUpper_toLower_of_isUpper {c : Char} (h : c.isUpper = true) : c.toLower.toUpper = c := by
  have hcapitals : ∀ c : Char, c.toNat < 91 → c.isUpper = true → c.toLower.toUpper = c :=
    forall_toNat_lt (by decide)
  exact hcapitals c (toNat_lt_of_isUpper h) h

/-- Characters with one lower case differ at most in their case. -/
theorem eq_or_eq_of_toLower_eq {c d : Char} (h : c.toLower = d.toLower) :
    d = c ∨ d = c.toLower ∨ d = c.toUpper := by
  cases hc : c.isUpper with
  | false =>
    rw [toLower_of_not_isUpper hc] at h
    cases hd : d.isUpper with
    | false =>
      rw [toLower_of_not_isUpper hd] at h
      exact .inl h.symm
    | true => exact .inr (.inr (by rw [h, toUpper_toLower_of_isUpper hd]))
  | true =>
    cases hd : d.isUpper with
    | false =>
      rw [toLower_of_not_isUpper hd] at h
      exact .inr (.inl h.symm)
    | true =>
      rw [← toUpper_toLower_of_isUpper hc, h, toUpper_toLower_of_isUpper hd]
      exact .inl rfl

/-- Two texts that differ at most in the case of ASCII letters. -/
def SameLetters (s t : String) : Prop :=
  List.Forall₂ (fun c d => d = c ∨ d = c.toLower ∨ d = c.toUpper) s.toList t.toList

/-- Texts that differ at most in the case of letters have one lower case. -/
theorem SameLetters.toLower_eq {s t : String} (h : SameLetters s t) : s.toLower = t.toLower := by
  have hlower : ∀ c d : Char, d = c ∨ d = c.toLower ∨ d = c.toUpper → c.toLower = d.toLower := by
    rintro c d (rfl | rfl | rfl)
    · rfl
    · rw [toLower_toLower]
    · rw [toLower_toUpper]
  change s.map Char.toLower = t.map Char.toLower
  rw [← String.toList_inj, String.toList_map, String.toList_map, ← List.forall₂_eq_eq_eq,
    List.forall₂_map_left_iff, List.forall₂_map_right_iff]
  exact h.imp hlower

/-- Texts with one lower case differ at most in the case of letters. -/
theorem sameLetters_of_toLower_eq {s t : String} (h : s.toLower = t.toLower) :
    SameLetters s t := by
  change s.map Char.toLower = t.map Char.toLower at h
  rw [← String.toList_inj, String.toList_map, String.toList_map, ← List.forall₂_eq_eq_eq,
    List.forall₂_map_left_iff, List.forall₂_map_right_iff] at h
  exact h.imp fun _ _ => eq_or_eq_of_toLower_eq

end ODataSession.Text
