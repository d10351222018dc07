import Mathlib.Data.List.Flatten
import ODataSession.Text.Percent

/-!
# The octets of texts

What the octets of a text tell of it, and what escapes do to them. `Percent.octets` of a text has at
most as many octets as the text in UTF-8, and it has as many exactly if the text has no escape
(`Percent.octets_eq_encode`, `Percent.length_octets_lt`). Escaping more characters of a text, but
neither the percent sign nor a digit, does not change what its octets are (`Percent.octets_encode`).
-/

namespace ODataSession

/-! ## Parts of texts -/

namespace Text

/-- What can be checked number by number holds of every character below a bound. -/
theorem forall_toNat_lt {b : Nat} {P : Char → Prop} (h : ∀ n < b, P (Char.ofNat n)) (c : Char)
    (hc : c.toNat < b) : P c := by
  have hnumber := h c.toNat hc
  rwa [Char.ofNat_toNat] at hnumber

variable {p s t : List Char} {c : Char}

/-- A text in front of a character that it does not hold is in front of that character. -/
theorem prefix_of_prefix_append_cons (hc : c ∉ p) (h : p <+: s ++ c :: t) : p <+: s := by
  rcases List.prefix_or_prefix_of_prefix h (List.prefix_append s (c :: t)) with hp | hs
  · exact hp
  · obtain ⟨r, rfl⟩ := hs
    rw [List.prefix_append_right_inj] at h
    cases r with
    | nil => exact ⟨[], by simp⟩
    | cons d r =>
      obtain ⟨rfl, -⟩ := List.cons_prefix_cons.1 h
      exact absurd (List.mem_append_right s (List.mem_cons_self ..)) hc

/-- A part of a text that lacks a character lies on one side of it. -/
theorem infix_append_cons_iff (hc : c ∉ p) : p <:+: s ++ c :: t ↔ p <:+: s ∨ p <:+: t := by
  constructor
  · intro h
    rcases List.infix_append_iff.1 h with h | h | ⟨p, r, rfl, hp, hr⟩
    · exact .inl h
    · rcases List.infix_cons_iff.1 h with h | h
      · have hnil : p <+: [] := prefix_of_prefix_append_cons (s := []) hc h
        rw [List.prefix_nil.1 hnil]
        exact .inl (List.nil_infix)
      · exact .inr h
    · have hnil : r <+: [] :=
        prefix_of_prefix_append_cons (s := []) (fun h => hc (List.mem_append_right p h)) hr
      rw [List.prefix_nil.1 hnil, List.append_nil]
      exact .inl hp.isInfix
  · rintro (h | h)
    · exact h.trans (List.prefix_append s (c :: t)).isInfix
    · exact h.trans ((List.suffix_cons c t).trans (List.suffix_append s (c :: t))).isInfix

/-- A part of a text that lacks the first character lies behind it. -/
theorem infix_cons_iff_of_not_mem (hc : c ∉ p) : p <:+: c :: t ↔ p <:+: t := by
  have hparts : p <:+: [] ++ c :: t ↔ p <:+: [] ∨ p <:+: t := infix_append_cons_iff hc
  rw [List.nil_append] at hparts
  exact hparts.trans (or_iff_right_of_imp fun h => h.trans List.nil_infix)

end Text

/-! ## UTF-8 -/

namespace Utf8

/-- What can be checked number by number holds of every octet. -/
theorem forall_octet {P : UInt8 → Prop} (h : ∀ n < 256, P (UInt8.ofNat n)) (b : UInt8) : P b := by
  have hnumber := h b.toNat b.toNat_lt
  rwa [UInt8.ofNat_toNat] at hnumber

/-- The octets of a text tell it apart from the others. -/
theorem encode_injective {s t : List Char} (h : encode s = encode t) : s = t := by
  have hoctets : s.utf8Encode = t.utf8Encode := congrArg List.toByteArray h
  have hdecoded := congrArg ByteArray.utf8Decode? hoctets
  rw [List.utf8Decode?_utf8Encode, List.utf8Decode?_utf8Encode] at hdecoded
  exact congrArg Array.toList (Option.some.inj hdecoded)

@[simp] theorem encode_nil : encode [] = [] := rfl

@[simp] theorem encode_cons (c : Char) (s : List Char) :
    encode (c :: s) = String.utf8EncodeChar c ++ encode s :=
  List.flatMap_cons

/-- Every character has an octet. -/
theorem length_utf8EncodeChar_pos (c : Char) : 0 < (String.utf8EncodeChar c).length :=
  List.length_pos_iff.2 String.utf8EncodeChar_ne_nil

/-- A part of a text with no fewer octets is the text. -/
theorem eq_of_sublist {s t : List Char} (h : s.Sublist t)
    (hlength : (encode t).length ≤ (encode s).length) : s = t :=
  encode_injective ((h.flatMap String.utf8EncodeChar).eq_of_length_le hlength)

end Utf8

/-! ## Escapes -/

namespace Percent

/-- A hexadecimal digit. -/
def IsHexDigit (c : Char) : Prop :=
  (hexValue? c).isSome

instance : DecidablePred IsHexDigit := fun c => inferInstanceAs (Decidable ((hexValue? c).isSome))

/-- The last digit is `f`. -/
theorem toNat_lt_of_isHexDigit {c : Char} (h : IsHexDigit c) : c.toNat < 103 := by
  refine Nat.lt_of_not_le fun hc => ?_
  have hnot : ∀ d : Char, d.toNat < 103 → ¬c ≤ d :=
    fun d hd hle => Nat.not_lt.2 hc (Nat.lt_of_le_of_lt hle hd)
  simp [IsHexDigit, hexValue?, hnot] at h

/-- A character that is no digit is neither of two digits. -/
theorem not_mem_digits {c a b : Char} (hc : ¬IsHexDigit c) (ha : IsHexDigit a)
    (hb : IsHexDigit b) : c ∉ [a, b] := by
  rintro (_ | ⟨_, _ | ⟨_, _ | _⟩⟩)
  · exact hc ha
  · exact hc hb

/-- A text with an escape in front. -/
def StartsEscape (s : List Char) : Prop :=
  ∃ a b, IsHexDigit a ∧ IsHexDigit b ∧ ['%', a, b] <+: s

/-- A text with an escape in it. -/
def HasEscape (s : List Char) : Prop :=
  ∃ a b, IsHexDigit a ∧ IsHexDigit b ∧ ['%', a, b] <:+: s

/-- There is no escape in the empty text. -/
theorem not_hasEscape_nil : ¬HasEscape [] := by
  rintro ⟨a, b, -, -, h⟩
  exact absurd (List.infix_nil.1 h) (List.cons_ne_nil _ _)

/-- An escape is in front or behind the first character. -/
theorem hasEscape_cons {c : Char} {s : List Char} :
    HasEscape (c :: s) ↔ StartsEscape (c :: s) ∨ HasEscape s := by
  simp only [HasEscape, StartsEscape, List.infix_cons_iff, and_or_left, exists_or]

/-- An escape stands for one octet. -/
theorem exists_octets_escape {a b : Char} (ha : IsHexDigit a) (hb : IsHexDigit b) :
    ∃ x : UInt8, ∀ s, octets ('%' :: a :: b :: s) = x :: octets s := by
  obtain ⟨x, hx⟩ := Option.isSome_iff_exists.1 ha
  obtain ⟨y, hy⟩ := Option.isSome_iff_exists.1 hb
  exact ⟨_, fun s => by rw [octets, hx, hy]⟩

/-- A character that begins no escape stands for itself. -/
theorem octets_cons_of_not {c : Char} {s : List Char} (h : ¬StartsEscape (c :: s)) :
    octets (c :: s) = String.utf8EncodeChar c ++ octets s := by
  rw [octets.eq_def]
  split
  · next a b rest heq =>
    obtain ⟨rfl, rfl⟩ := List.cons.inj heq
    split
    · next hx hy =>
      exact absurd ⟨a, b, by simp [IsHexDigit, hx], by simp [IsHexDigit, hy],
        List.prefix_append ['%', a, b] rest⟩ h
    · rfl
  · next heq =>
    obtain ⟨rfl, rfl⟩ := List.cons.inj heq
    rfl
  · next heq => cases heq

/-- The octets of a text are read off it by escapes and by characters that begin no escape. -/
theorem octets_induction {motive : List Char → Prop} (nil : motive [])
    (escape : ∀ a b s, IsHexDigit a → IsHexDigit b → motive s → motive ('%' :: a :: b :: s))
    (char : ∀ c s, ¬StartsEscape (c :: s) → motive s → motive (c :: s)) : ∀ s, motive s
  | [] => nil
  | c :: s => by
    by_cases h : StartsEscape (c :: s)
    · obtain ⟨a, b, ha, hb, rest, hrest⟩ := h
      obtain ⟨rfl, rfl⟩ := List.cons.inj hrest
      exact escape a b rest ha hb (octets_induction nil escape char rest)
    · exact char c s h (octets_induction nil escape char s)
termination_by s => s.length

/-- What is not empty stands for an octet. -/
theorem length_octets_pos {s : List Char} (h : s ≠ []) : 0 < (octets s).length := by
  induction s using octets_induction with
  | nil => exact absurd rfl h
  | escape a b s ha hb _ =>
    obtain ⟨x, hx⟩ := exists_octets_escape ha hb
    rw [hx]
    exact Nat.succ_pos _
  | char c s hc _ =>
    rw [octets_cons_of_not hc, List.length_append]
    exact Nat.add_pos_left (Utf8.length_utf8EncodeChar_pos c) _

/-- A text without escapes stands for itself. -/
theorem octets_eq_encode {s : List Char} (h : ¬HasEscape s) : octets s = Utf8.encode s := by
  induction s with
  | nil => simp [octets]
  | cons c s ih =>
    rw [hasEscape_cons, not_or] at h
    rw [octets_cons_of_not h.1, ih h.2, Utf8.encode_cons]

/-- A text stands for no more octets than it has. -/
theorem length_octets_le (s : List Char) : (octets s).length ≤ (Utf8.encode s).length := by
  induction s using octets_induction with
  | nil => simp [octets]
  | escape a b s ha hb ih =>
    obtain ⟨x, hx⟩ := exists_octets_escape ha hb
    have hpos := Utf8.length_utf8EncodeChar_pos '%'
    simp only [hx, Utf8.encode_cons, List.length_cons, List.length_append]
    omega
  | char c s h ih =>
    simp only [octets_cons_of_not h, Utf8.encode_cons, List.length_append]
    omega

/-- A text with an escape stands for fewer octets than it has. -/
theorem length_octets_lt {s : List Char} (h : HasEscape s) :
    (octets s).length < (Utf8.encode s).length := by
  induction s using octets_induction with
  | nil => exact absurd h not_hasEscape_nil
  | escape a b s ha hb _ =>
    obtain ⟨x, hx⟩ := exists_octets_escape ha hb
    have hrest := length_octets_le s
    have hpercent := Utf8.length_utf8EncodeChar_pos '%'
    have hfirst := Utf8.length_utf8EncodeChar_pos a
    simp only [hx, Utf8.encode_cons, List.length_cons, List.length_append]
    omega
  | char c s hc ih =>
    have hrest := ih ((hasEscape_cons.1 h).resolve_left hc)
    simp only [octets_cons_of_not hc, Utf8.encode_cons, List.length_append]
    omega

/-- A character that is no digit cuts a text into parts that stand for their octets alone. -/
theorem octets_append_cons {c : Char} (hc : ¬IsHexDigit c) (s t : List Char) :
    octets (s ++ c :: t) = octets s ++ octets (c :: t) := by
  induction s using octets_induction with
  | nil => simp [octets]
  | escape a b s ha hb ih =>
    obtain ⟨x, hx⟩ := exists_octets_escape ha hb
    simp only [List.cons_append, hx, ih]
  | char d s hd ih =>
    have hd' : ¬StartsEscape (d :: (s ++ c :: t)) := by
      rintro ⟨a, b, ha, hb, hprefix⟩
      obtain ⟨rfl, hdigits⟩ := List.cons_prefix_cons.1 hprefix
      have hprefix' := Text.prefix_of_prefix_append_cons (not_mem_digits hc ha hb) hdigits
      exact hd ⟨a, b, ha, hb, List.cons_prefix_cons.2 ⟨rfl, hprefix'⟩⟩
    rw [List.cons_append, octets_cons_of_not hd', ih, octets_cons_of_not hd, List.append_assoc]

/-! ## Escaping -/

/-- The digits of values below sixteen are read back. -/
theorem hexValue?_hexDigit : ∀ n < 16, hexValue? (hexDigit n) = some n := by
  decide

/-- An escaped octet stands for the octet. -/
theorem octets_escapeOctet_append (b : UInt8) (s : List Char) :
    octets (escapeOctet b ++ s) = b :: octets s := by
  have hbound : b.toNat < 256 := b.toNat_lt
  have hhigh := hexValue?_hexDigit (b.toNat / 16) (by omega)
  have hlow := hexValue?_hexDigit (b.toNat % 16) (by omega)
  simp only [escapeOctet, List.cons_append, List.nil_append, octets, hhigh, hlow]
  rw [Nat.div_add_mod' b.toNat 16, UInt8.ofNat_toNat]

/-- Escaped octets stand for the octets. -/
theorem octets_flatMap_escapeOctet_append (l : List UInt8) (s : List Char) :
    octets (l.flatMap escapeOctet ++ s) = l ++ octets s := by
  induction l with
  | nil => rfl
  | cons b l ih =>
    rw [List.flatMap_cons, List.append_assoc, octets_escapeOctet_append, ih, List.cons_append]

section
variable {keep : Char → Bool} {c : Char} (s : List Char)

/-- A character that is kept stands in front of what is escaped behind it. -/
theorem encode_cons_of_keep (h : keep c = true) : encode keep (c :: s) = c :: encode keep s := by
  simp [encode, encodeChar, h]

/-- A character that is not kept is escaped. -/
theorem encode_cons_of_not_keep (h : keep c = false) :
    encode keep (c :: s) = (String.utf8EncodeChar c).flatMap escapeOctet ++ encode keep s := by
  simp [encode, encodeChar, h]

variable {s}

/-- What is in front of an escaped text and has no percent sign was in front of the text. -/
theorem prefix_of_prefix_encode {p : List Char} (hp : '%' ∉ p) (h : p <+: encode keep s) :
    p <+: s := by
  induction s generalizing p with
  | nil => exact h
  | cons c s ih =>
    cases p with
    | nil => exact List.nil_prefix
    | cons a p =>
      cases hkeep : keep c with
      | true =>
        rw [encode_cons_of_keep s hkeep] at h
        obtain ⟨rfl, hrest⟩ := List.cons_prefix_cons.1 h
        exact List.cons_prefix_cons.2 ⟨rfl, ih (fun h => hp (List.mem_cons_of_mem a h)) hrest⟩
      | false =>
        obtain ⟨b, l, hoctets⟩ := List.exists_cons_of_ne_nil (@String.utf8EncodeChar_ne_nil c)
        rw [encode_cons_of_not_keep s hkeep, hoctets] at h
        obtain ⟨rfl, -⟩ := List.cons_prefix_cons.1 h
        exact absurd (List.mem_cons_self ..) hp

/-- Escaping characters other than the percent sign and the digits leaves the octets as they
are. -/
theorem octets_encode (hpercent : keep '%' = true) (hdigit : ∀ c, IsHexDigit c → keep c = true)
    (s : List Char) : octets (encode keep s) = octets s := by
  induction s using octets_induction with
  | nil => rfl
  | escape a b s ha hb ih =>
    obtain ⟨x, hx⟩ := exists_octets_escape ha hb
    rw [encode_cons_of_keep _ hpercent, encode_cons_of_keep _ (hdigit a ha),
      encode_cons_of_keep _ (hdigit b hb), hx, hx, ih]
  | char c s hc ih =>
    rw [octets_cons_of_not hc]
    cases hkeep : keep c with
    | true =>
      have hc' : ¬StartsEscape (c :: encode keep s) := by
        rintro ⟨a, b, ha, hb, hprefix⟩
        obtain ⟨rfl, hdigits⟩ := List.cons_prefix_cons.1 hprefix
        have hprefix' := prefix_of_prefix_encode (not_mem_digits (by decide) ha hb) hdigits
        exact hc ⟨a, b, ha, hb, List.cons_prefix_cons.2 ⟨rfl, hprefix'⟩⟩
      rw [encode_cons_of_keep s hkeep, octets_cons_of_not hc', ih]
    | false => rw [encode_cons_of_not_keep s hkeep, octets_flatMap_escapeOctet_append, ih]

end

end Percent

end ODataSession
