import ODataSession.Json.Printer
import ODataSession.Json.Scanner
import ODataSession.Proofs.Query.Literal
import ODataSession.Proofs.Text.Octets
import ODataSession.Proofs.Text.Parts

/-!
# Reading the tokens of written JSON

What a string and an integer are written as is read back, whatever follows it. A string ends with
the first quote that is not escaped, and every character of it is read in one round, in whichever of
its ways it stands there (`Json.Escape.scanStringWithin`, `Json.scanString_quoted`). An integer has
no end of its own, so that nothing may follow it that a number could go on with
(`Json.scanNumber_signed`).
-/

namespace ODataSession.Json

variable (reading : Reading)

/-! ## Strings -/

/-- The controls that a letter stands for behind a backslash. -/
def controlLetters : List (Char × Char) :=
  [('\x08', 'b'), ('\x0c', 'f'), ('\n', 'n'), ('\r', 'r'), ('\t', 't')]

/-- The ways in which a character stands in a string: the quote and the backslash behind a
backslash, some controls as a letter, the other ones as hexadecimal digits in lower case, and all
else as it is. -/
inductive Escape : Char → List Char → Prop
  | mark {c : Char} (hmark : c ∈ ['"', '\\']) : Escape c ['\\', c]
  | letter {c letter : Char} (hletter : (c, letter) ∈ controlLetters) : Escape c ['\\', letter]
  | digits {c high low : Char} {m n : Nat} (hcontrol : c.toNat < 32)
    (hletter : c ∉ controlLetters.map Prod.fst)
    (hlower : high.isUpper = false ∧ low.isUpper = false)
    (hhigh : Percent.hexValue? high = some m) (hlow : Percent.hexValue? low = some n)
    (hvalue : m * 16 + n = c.toNat) : Escape c ['\\', 'u', '0', '0', high, low]
  | plain {c : Char} (hmark : c ∉ ['"', '\\']) (hcontrol : ¬c.toNat < 32) : Escape c [c]

/-- The digits of a number below sixteen. -/
theorem hexValue?_digitChar : ∀ n < 16, Percent.hexValue? (Nat.digitChar n) = some n ∧
    (Nat.digitChar n).isUpper = false := by
  decide

/-- Every character is written in the way that it has. -/
theorem escape_escapeChar (c : Char) : Escape c (escapeChar c) := by
  by_cases hmark : c ∈ ['"', '\\']
  · have hall : ∀ c ∈ ['"', '\\'], escapeChar c = ['\\', c] := by simp [escapeChar]
    rw [hall c hmark]
    exact .mark hmark
  by_cases hletter : c ∈ controlLetters.map Prod.fst
  · have hall : ∀ p ∈ controlLetters, escapeChar p.1 = ['\\', p.2] := by
      simp [controlLetters, escapeChar]
    obtain ⟨p, hp, rfl⟩ := List.mem_map.1 hletter
    rw [hall p hp]
    exact .letter hp
  have hnone := hletter
  have hneither := hmark
  simp only [controlLetters, List.map_cons, List.map_nil, List.mem_cons, List.not_mem_nil, or_false,
    not_or] at hnone hneither
  obtain ⟨hquote, hbackslash⟩ := hneither
  obtain ⟨hbackspace, hfeed, hline, hreturn, htab⟩ := hnone
  rw [escapeChar, if_neg hquote, if_neg hbackslash, if_neg hbackspace, if_neg hfeed, if_neg hline,
    if_neg hreturn, if_neg htab]
  split
  · next hcontrol =>
    obtain ⟨hhigh, hhighLower⟩ := hexValue?_digitChar (c.toNat / 16) (by omega)
    obtain ⟨hlow, hlowLower⟩ := hexValue?_digitChar (c.toNat % 16) (by omega)
    exact .digits hcontrol hletter ⟨hhighLower, hlowLower⟩ hhigh hlow (by omega)
  · next hcontrol => exact .plain hmark hcontrol

/-- A control character is read from its digits. -/
theorem scanCodeUnit_digits {c high low : Char} {m n : Nat} (hcontrol : c.toNat < 32)
    (hhigh : Percent.hexValue? high = some m) (hlow : Percent.hexValue? low = some n)
    (hvalue : m * 16 + n = c.toNat) (rest : List Char) :
    scanCodeUnit reading ('0' :: '0' :: high :: low :: rest) = .ok (c, rest) := by
  have hzero : Percent.hexValue? '0' = some 0 := rfl
  have hnumber : ((0 * 16 + 0) * 16 + m) * 16 + n = c.toNat := by omega
  have hquad : scanHexQuad ('0' :: '0' :: high :: low :: rest) = .ok (c.toNat, rest) := by
    simp only [scanHexQuad, hzero, hhigh, hlow, hnumber]
  have hplain : (isHighSurrogate c.toNat || isLowSurrogate c.toNat) = false := by
    simp only [isHighSurrogate, isLowSurrogate, Bool.or_eq_false_iff, Bool.and_eq_false_iff,
      decide_eq_false_iff_not]
    omega
  simp [scanCodeUnit, hquad, hplain, bind, Except.bind, pure, Except.pure]

/-- A round reads one escape. -/
theorem scanStringWithin_backslash {fuel : Nat} {s rest : List Char} {c : Char}
    (h : scanEscape reading s = .ok (c, rest)) :
    scanStringWithin reading (fuel + 1) ('\\' :: s) =
      (scanStringWithin reading fuel rest).map fun (s, rest) => (c :: s, rest) := by
  rw [scanStringWithin, if_neg (by decide), if_pos rfl, h]
  change (scanStringWithin reading fuel rest >>= _) = _
  cases scanStringWithin reading fuel rest <;> rfl

/-- A round reads one character that stands for itself. -/
theorem scanStringWithin_plain {fuel : Nat} {rest : List Char} {c : Char} (hquote : c ≠ '"')
    (hbackslash : c ≠ '\\') (hcontrol : ¬c.toNat < 32) :
    scanStringWithin reading (fuel + 1) (c :: rest) =
      (scanStringWithin reading fuel rest).map fun (s, rest) => (c :: s, rest) := by
  have hspace : ¬c < ' ' := fun h => hcontrol h
  rw [scanStringWithin, if_neg hquote, if_neg hbackslash, if_neg hspace]
  cases scanStringWithin reading fuel rest <;> rfl

/-- A character is read from any of its ways in one round. -/
theorem Escape.scanStringWithin {c : Char} {s : List Char} (h : Escape c s) (fuel : Nat)
    (rest : List Char) : scanStringWithin reading (fuel + 1) (s ++ rest) =
      (scanStringWithin reading fuel rest).map fun (s, rest) => (c :: s, rest) := by
  cases h with
  | mark hmark =>
    simp only [List.mem_cons, List.not_mem_nil, or_false] at hmark
    rcases hmark with rfl | rfl <;> exact scanStringWithin_backslash reading rfl
  | letter hletter =>
    simp only [controlLetters, List.mem_cons, Prod.mk.injEq, List.not_mem_nil, or_false] at hletter
    rcases hletter with ⟨rfl, rfl⟩ | ⟨rfl, rfl⟩ | ⟨rfl, rfl⟩ | ⟨rfl, rfl⟩ | ⟨rfl, rfl⟩ <;>
      exact scanStringWithin_backslash reading rfl
  | digits hcontrol _ _ hhigh hlow hvalue =>
    exact scanStringWithin_backslash reading
      (scanCodeUnit_digits reading hcontrol hhigh hlow hvalue rest)
  | plain hmark hcontrol =>
    rw [List.mem_cons, List.mem_singleton, not_or] at hmark
    exact scanStringWithin_plain reading hmark.1 hmark.2 hcontrol

/-- A string is read back up to its closing quote. -/
theorem scanStringWithin_flatMap_escapeChar {fuel : Nat} {s : List Char} (hfuel : s.length < fuel)
    (rest : List Char) :
    scanStringWithin reading fuel (s.flatMap escapeChar ++ '"' :: rest) = .ok (s, rest) := by
  induction s generalizing fuel with
  | nil =>
    obtain ⟨fuel, rfl⟩ := Nat.exists_eq_succ_of_ne_zero (Nat.ne_of_gt hfuel)
    rfl
  | cons c s ih =>
    obtain ⟨fuel, rfl⟩ := Nat.exists_eq_succ_of_ne_zero (Nat.ne_of_gt (Nat.zero_lt_of_lt hfuel))
    rw [List.flatMap_cons, List.append_assoc, (escape_escapeChar c).scanStringWithin,
      ih (Nat.lt_of_succ_lt_succ hfuel)]
    rfl

/-- An escape is not shorter than the character that it stands for. -/
theorem length_le_length_flatMap_escapeChar (s : List Char) :
    s.length ≤ (s.flatMap escapeChar).length := by
  induction s with
  | nil => exact Nat.le_refl 0
  | cons c s ih =>
    have hescape : ∀ {t : List Char}, Escape c t → 1 ≤ t.length := fun h => by
      cases h <;> exact Nat.succ_pos _
    have hone := hescape (escape_escapeChar c)
    rw [List.flatMap_cons, List.length_append, List.length_cons]
    omega

/-- A string is read back, its opening quote being read already. -/
theorem scanString_quoted (s rest : List Char) :
    scanString reading (s.flatMap escapeChar ++ '"' :: rest) = .ok (s, rest) := by
  refine scanStringWithin_flatMap_escapeChar reading ?_ rest
  have := length_le_length_flatMap_escapeChar s
  rw [List.length_append]
  omega

/-! ## Integers -/

/-- A character that a number can go on with. -/
def continuesNumber (c : Char) : Bool :=
  c.isDigit || c = '.' || c = 'e' || c = 'E'

/-- What follows a number leaves it as it is. -/
def EndsNumber (rest : List Char) : Prop :=
  ∀ c ∈ rest.head?, continuesNumber c = false

/-- A number ends in front of a character that it cannot go on with. -/
theorem endsNumber_cons {c : Char} (h : continuesNumber c = false) (rest : List Char) :
    EndsNumber (c :: rest) := by
  intro d hd
  rw [List.head?_cons, Option.mem_some_iff] at hd
  exact hd ▸ h

/-- A natural number starts with a digit, and only zero starts with a zero. -/
theorem exists_toDigits_eq_cons (n : Nat) : ∃ c digits, Nat.toDigits 10 n = c :: digits ∧
    c.isDigit = true ∧ (n ≠ 0 → c ≠ '0') := by
  induction n using Nat.strongRecOn with
  | ind n ih =>
    by_cases hsmall : n < 10
    · have hdigits : ∀ n < 10, (Nat.digitChar n).isDigit = true ∧
          (n ≠ 0 → Nat.digitChar n ≠ '0') := by decide
      exact ⟨_, [], Nat.toDigits_of_lt_base hsmall, hdigits n hsmall⟩
    · obtain ⟨c, digits, hcons, hdigit, hzero⟩ := ih (n / 10) (by omega)
      refine ⟨c, digits ++ [Nat.digitChar (n % 10)], ?_, hdigit, fun _ => hzero (by omega)⟩
      rw [Nat.toDigits_of_base_le (by decide) (by omega), hcons, List.cons_append]

/-- Digits are read up to a character that is none. -/
theorem scanDigits_append {digits rest : List Char} (hne : digits ≠ [])
    (hdigits : ∀ c ∈ digits, c.isDigit = true) (hrest : ∀ c ∈ rest.head?, c.isDigit = false) :
    scanDigits (digits ++ rest) = .ok (digits, rest) := by
  obtain ⟨htake, hdrop⟩ := Text.takeWhile_dropWhile_append hdigits hrest
  obtain ⟨c, digits, rfl⟩ := List.exists_cons_of_ne_nil hne
  rw [List.cons_append] at htake hdrop ⊢
  rw [scanDigits, if_pos (hdigits c List.mem_cons_self), htake, hdrop]

section
variable {rest : List Char} (hrest : EndsNumber rest)

include hrest

/-- No digit stands where a number ends. -/
theorem head_not_isDigit : ∀ c ∈ rest.head?, ¬c.isDigit = true := by
  intro c hc hdigit
  have hends := hrest c hc
  simp [continuesNumber, hdigit] at hends

/-- The digits of a natural number are read up to where the number ends. -/
theorem scanDigits_toDigits (n : Nat) :
    scanDigits (Nat.toDigits 10 n ++ rest) = .ok (Nat.toDigits 10 n, rest) :=
  scanDigits_append (Nat.toDigits_ne_nil)
    (fun _ hc => Nat.isDigit_of_mem_toDigits (by decide) (by decide) hc)
    fun c hc => Bool.eq_false_iff.2 (head_not_isDigit hrest c hc)

/-- A natural number is read as the whole part of a number. -/
theorem scanWhole_toDigits (n : Nat) : scanWhole (Nat.toDigits 10 n ++ rest) = .ok (n, rest) := by
  by_cases hn : n = 0
  · subst hn
    cases rest with
    | nil => rfl
    | cons c rest =>
      change (if c.isDigit then _ else Except.ok (0, c :: rest)) = _
      exact if_neg (head_not_isDigit hrest c rfl)
  · rw [scanWhole.eq_def]
    split
    · next hzero =>
      obtain ⟨c, digits, hcons, -, hne⟩ := exists_toDigits_eq_cons n
      rw [hcons, List.cons_append] at hzero
      cases hzero
      exact absurd rfl (hne hn)
    · rw [scanDigits_toDigits hrest]
      change Except.ok (Nat.ofDigitChars 10 (Nat.toDigits 10 n) 0, rest) = _
      rw [Nat.ofDigitChars_ten_toDigits]

/-- Where a number ends there is no point. -/
theorem scanFraction_of_endsNumber : scanFraction rest = .ok ([], rest) := by
  rw [scanFraction.eq_def]
  split
  · next hpoint => cases hrest '.' rfl
  · rfl

/-- Where a number ends there is no exponent. -/
theorem scanExponent_of_endsNumber : scanExponent rest = .ok (none, rest) := by
  cases rest with
  | nil => rfl
  | cons c rest =>
    have hc := hrest c rfl
    simp only [continuesNumber, Bool.or_eq_false_iff, decide_eq_false_iff_not] at hc
    rw [scanExponent, if_neg (by simp [hc])]

/-- An integer is read back. -/
theorem scanNumber_signed (negative : Bool) (n : Nat) :
    scanNumber (Decimal.signed negative (Nat.toDigits 10 n) ++ rest) =
      .ok (⟨negative, n, [], none⟩, rest) := by
  cases negative with
  | true =>
    rw [Decimal.signed, if_pos rfl, List.cons_append, scanNumber]
    simp only [bind, Except.bind, scanWhole_toDigits hrest, scanFraction_of_endsNumber hrest,
      scanExponent_of_endsNumber hrest]
    rfl
  | false =>
    rw [Decimal.signed, if_neg Bool.false_ne_true, scanNumber]
    · simp only [bind, Except.bind, scanWhole_toDigits hrest, scanFraction_of_endsNumber hrest,
        scanExponent_of_endsNumber hrest]
      rfl
    · -- the number starts with a digit, which is no sign
      obtain ⟨c, digits, hcons, hdigit, -⟩ := exists_toDigits_eq_cons n
      intro s hminus
      rw [hcons, List.cons_append] at hminus
      cases hminus
      cases hdigit

end

end ODataSession.Json
