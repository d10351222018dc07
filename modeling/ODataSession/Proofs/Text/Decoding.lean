import ODataSession.Proofs.Text.Octets

/-!
# Reading octets back

The octets of a text are read back as the text (`Utf8.decode?_encode`), and so is a text in which
the percent sign, at least, is escaped (`Percent.decode?_encode`). A character is read back by its
leading octet, which tells how many octets follow and bounds the first of them, and then octet by
octet; every octet behind the leading one is `x + 128` for six more bits `x` of the character.
-/

namespace ODataSession

/-! ## UTF-8 -/

namespace Utf8

section
variable {n : Nat}

/-- An octet is compared by its value. -/
theorem le_ofNat_iff (hn : n < 256) (b : UInt8) : b ≤ UInt8.ofNat n ↔ b.toNat ≤ n := by
  rw [UInt8.le_iff_toNat_le, UInt8.toNat_ofNat_of_lt' hn]

/-- An octet is compared by its value. -/
theorem ofNat_le_iff (hn : n < 256) (b : UInt8) : UInt8.ofNat n ≤ b ↔ n ≤ b.toNat := by
  rw [UInt8.le_iff_toNat_le, UInt8.toNat_ofNat_of_lt' hn]

/-- The demands of a leading octet, by its value. -/
theorem lead?_ofNat (hn : n < 256) : lead? (UInt8.ofNat n) =
    if 0xc2 ≤ n ∧ n ≤ 0xdf then some ⟨1, 0x80, 0xbf⟩
    else if n = 0xe0 then some ⟨2, 0xa0, 0xbf⟩
    else if n = 0xed then some ⟨2, 0x80, 0x9f⟩
    else if 0xe1 ≤ n ∧ n ≤ 0xef then some ⟨2, 0x80, 0xbf⟩
    else if n = 0xf0 then some ⟨3, 0x90, 0xbf⟩
    else if 0xf1 ≤ n ∧ n ≤ 0xf3 then some ⟨3, 0x80, 0xbf⟩
    else if n = 0xf4 then some ⟨3, 0x80, 0x8f⟩
    else none := by
  have heq : ∀ b : UInt8, UInt8.ofNat n = b ↔ n = b.toNat := fun b => by
    rw [← UInt8.toNat_inj, UInt8.toNat_ofNat_of_lt' hn]
  simp only [lead?, Bool.and_eq_true, decide_eq_true_eq, le_ofNat_iff hn, ofNat_le_iff hn, heq]
  rfl

/-- An octet behind the leading one adds its six bits to those that have been read. -/
theorem readTail_ofNat_cons {x acc : Nat} {low high : UInt8} {rest : List UInt8} (hx : x < 64)
    (hlow : low.toNat ≤ x + 128) (hhigh : x + 128 ≤ high.toNat) :
    readTail (n + 1) low high acc (UInt8.ofNat (x + 128) :: rest) =
      readTail n 0x80 0xbf (acc * 64 + x) rest := by
  have hoctet : x + 128 < 256 := by omega
  have hbits : (x + 128) % 64 = x := by omega
  rw [readTail, UInt8.toNat_ofNat_of_lt' hoctet, hbits, if_pos]
  simp only [Bool.and_eq_true, decide_eq_true_eq, le_ofNat_iff hoctet, ofNat_le_iff hoctet]
  exact ⟨hlow, hhigh⟩

/-- A leading octet above the ASCII range hands the reading over to the octets behind it. -/
theorem readChar_of_lead? {d : Lead} {rest : List UInt8} (hn : n < 256) (hascii : 128 ≤ n)
    (hlead : lead? (UInt8.ofNat n) = some d) :
    readChar (UInt8.ofNat n) rest =
      readTail d.following d.low d.high (n % (1 <<< (6 - d.following))) rest := by
  have hnot : ¬UInt8.ofNat n < 0x80 := by
    rw [UInt8.lt_iff_toNat_lt, UInt8.toNat_ofNat_of_lt' hn]
    exact Nat.not_lt.2 hascii
  simp only [readChar, if_neg hnot, hlead, leadBits, UInt8.toNat_ofNat_of_lt' hn]

end

/-! ### Characters by the number of their octets -/

section
variable {v : Nat} (rest : List UInt8)

/-- One octet is read back. -/
theorem readChar_one (h : v ≤ 0x7f) :
    readChar (UInt8.ofNat v) rest = .char (Char.ofNat v) rest := by
  have hv : v < 256 := by omega
  have hascii : UInt8.ofNat v < 0x80 := by
    rw [UInt8.lt_iff_toNat_lt, UInt8.toNat_ofNat_of_lt' hv]
    exact Nat.lt_succ_of_le h
  rw [readChar, if_pos hascii, UInt8.toNat_ofNat_of_lt' hv]

/-- Two octets are read back. -/
theorem readChar_two (hlow : 0x7f < v) (hhigh : v ≤ 0x7ff) :
    readChar (UInt8.ofNat (v / 64 % 32 + 192)) (UInt8.ofNat (v % 64 + 128) :: rest) =
      .char (Char.ofNat v) rest := by
  have hlead : lead? (UInt8.ofNat (v / 64 % 32 + 192)) = some ⟨1, 0x80, 0xbf⟩ := by
    rw [lead?_ofNat (by omega), if_pos (by omega)]
  have hbits : (v / 64 % 32 + 192) % 32 * 64 + v % 64 = v := by omega
  rw [readChar_of_lead? (by omega) (by omega) hlead,
    readTail_ofNat_cons (by omega) (by simp) (by simp; omega), readTail]
  simp only [Nat.reduceSub, Nat.reduceShiftLeft, hbits]

/-- Three octets are read back. -/
theorem readChar_three (hlow : 0x7ff < v) (hhigh : v ≤ 0xffff)
    (hsurrogate : v < 0xd800 ∨ 0xdfff < v) :
    readChar (UInt8.ofNat (v / 4096 % 16 + 224))
        (UInt8.ofNat (v / 64 % 64 + 128) :: UInt8.ofNat (v % 64 + 128) :: rest) =
      .char (Char.ofNat v) rest := by
  have hbits : ((v / 4096 % 16 + 224) % 16 * 64 + v / 64 % 64) * 64 + v % 64 = v := by omega
  obtain ⟨low, high, hlead, hfirst⟩ : ∃ low high : UInt8,
      lead? (UInt8.ofNat (v / 4096 % 16 + 224)) = some ⟨2, low, high⟩ ∧
        low.toNat ≤ v / 64 % 64 + 128 ∧ v / 64 % 64 + 128 ≤ high.toNat := by
    rw [lead?_ofNat (by omega), if_neg (by omega)]
    split
    · exact ⟨_, _, rfl, by simp; omega, by simp; omega⟩
    · split
      · exact ⟨_, _, rfl, by simp, by simp; omega⟩
      · rw [if_pos (by omega)]
        exact ⟨_, _, rfl, by simp, by simp; omega⟩
  rw [readChar_of_lead? (by omega) (by omega) hlead,
    readTail_ofNat_cons (by omega) hfirst.1 hfirst.2,
    readTail_ofNat_cons (by omega) (by simp) (by simp; omega), readTail]
  simp only [Nat.reduceSub, Nat.reduceShiftLeft, hbits]

/-- Four octets are read back. -/
theorem readChar_four (hlow : 0xffff < v) (hhigh : v < 0x110000) :
    readChar (UInt8.ofNat (v / 262144 % 8 + 240))
        (UInt8.ofNat (v / 4096 % 64 + 128) :: UInt8.ofNat (v / 64 % 64 + 128) ::
          UInt8.ofNat (v % 64 + 128) :: rest) =
      .char (Char.ofNat v) rest := by
  have hbits : (((v / 262144 % 8 + 240) % 8 * 64 + v / 4096 % 64) * 64 + v / 64 % 64) * 64 +
      v % 64 = v := by omega
  obtain ⟨low, high, hlead, hfirst⟩ : ∃ low high : UInt8,
      lead? (UInt8.ofNat (v / 262144 % 8 + 240)) = some ⟨3, low, high⟩ ∧
        low.toNat ≤ v / 4096 % 64 + 128 ∧ v / 4096 % 64 + 128 ≤ high.toNat := by
    rw [lead?_ofNat (by omega), if_neg (by omega), if_neg (by omega), if_neg (by omega),
      if_neg (by omega)]
    split
    · exact ⟨_, _, rfl, by simp; omega, by simp; omega⟩
    · split
      · exact ⟨_, _, rfl, by simp, by simp; omega⟩
      · rw [if_pos (by omega)]
        exact ⟨_, _, rfl, by simp, by simp; omega⟩
  rw [readChar_of_lead? (by omega) (by omega) hlead,
    readTail_ofNat_cons (by omega) hfirst.1 hfirst.2,
    readTail_ofNat_cons (by omega) (by simp) (by simp; omega),
    readTail_ofNat_cons (by omega) (by simp) (by simp; omega), readTail]
  simp only [Nat.reduceSub, Nat.reduceShiftLeft, hbits]

end

/-- The number of a character is that of no surrogate. -/
theorem toNat_lt_or_lt (c : Char) : c.toNat < 0xd800 ∨ 0xdfff < c.toNat ∧ c.toNat < 0x110000 :=
  c.valid

/-- A character is read back from its octets, whatever follows them. -/
theorem exists_readChar_utf8EncodeChar (c : Char) (rest : List UInt8) :
    ∃ b s, String.utf8EncodeChar c = b :: s ∧ readChar b (s ++ rest) = .char c rest := by
  have hvalid := toNat_lt_or_lt c
  have hchar : Char.ofNat c.toNat = c := Char.ofNat_toNat c
  generalize hv : c.toNat = v at hvalid hchar
  have hval : c.val.toNat = v := hv
  unfold String.utf8EncodeChar
  simp only [hval]
  rw [← hchar]
  split
  · exact ⟨_, _, rfl, readChar_one rest ‹_›⟩
  · split
    · exact ⟨_, _, rfl, readChar_two rest (by omega) ‹_›⟩
    · split
      · exact ⟨_, _, rfl, readChar_three rest (by omega) ‹_› (by omega)⟩
      · exact ⟨_, _, rfl, readChar_four rest (by omega) (by omega)⟩

/-- The octets of a text are read back as the text. -/
theorem decode?_encode (s : List Char) : decode? (encode s) = some s := by
  induction s with
  | nil => rw [encode_nil, decode?]
  | cons c s ih =>
    obtain ⟨b, tail, hoctets, hread⟩ := exists_readChar_utf8EncodeChar c (encode s)
    rw [encode_cons, hoctets, List.cons_append, decode?]
    split
    · next hread' =>
      rw [hread] at hread'
      cases hread'
      rw [ih]
      rfl
    · next hread' =>
      rw [hread] at hread'
      cases hread'

end Utf8

/-! ## Escapes -/

namespace Percent

/-- A text written with characters of a class and with escapes. -/
inductive IsWritten (keep : Char → Bool) : List Char → Prop
  | nil : IsWritten keep []
  | kept {c : Char} {s : List Char} (hc : keep c = true) (h : IsWritten keep s) :
    IsWritten keep (c :: s)
  | escape {a b : Char} {s : List Char} (ha : IsHexDigit a) (hb : IsHexDigit b)
      (h : IsWritten keep s) : IsWritten keep ('%' :: a :: b :: s)

section
variable {keep keep' : Char → Bool} {s t : List Char}

/-- What is written in two parts is written as a whole. -/
theorem IsWritten.append (hs : IsWritten keep s) (ht : IsWritten keep t) :
    IsWritten keep (s ++ t) := by
  induction hs with
  | nil => exact ht
  | kept hc _ ih => exact .kept hc ih
  | escape ha hb _ ih => exact .escape ha hb ih

/-- What is written with some characters is written with more of them. -/
theorem IsWritten.mono (hs : IsWritten keep s) (h : ∀ c, keep c = true → keep' c = true) :
    IsWritten keep' s := by
  induction hs with
  | nil => exact .nil
  | kept hc _ ih => exact .kept (h _ hc) ih
  | escape ha hb _ ih => exact .escape ha hb ih

/-- A written text has only characters of its class and those of escapes. -/
theorem IsWritten.of_mem (hs : IsWritten keep s) {c : Char} (hc : c ∈ s) :
    keep c = true ∨ c = '%' ∨ IsHexDigit c := by
  induction hs with
  | nil => cases hc
  | kept hkeep _ ih =>
    rcases List.mem_cons.1 hc with rfl | hc
    · exact .inl hkeep
    · exact ih hc
  | escape ha hb _ ih =>
    rcases List.mem_cons.1 hc with rfl | hc
    · exact .inr (.inl rfl)
    rcases List.mem_cons.1 hc with rfl | hc
    · exact .inr (.inr ha)
    rcases List.mem_cons.1 hc with rfl | hc
    · exact .inr (.inr hb)
    · exact ih hc

/-- The digits of escapes are hexadecimal digits. -/
theorem isHexDigit_hexDigit {n : Nat} (hn : n < 16) : IsHexDigit (hexDigit n) := by
  rw [IsHexDigit, hexValue?_hexDigit n hn]
  rfl

/-- Escaped octets are written with escapes alone. -/
theorem isWritten_flatMap_escapeOctet (l : List UInt8) :
    IsWritten keep (l.flatMap escapeOctet) := by
  induction l with
  | nil => exact .nil
  | cons b l ih =>
    have hbound : b.toNat < 256 := b.toNat_lt
    exact .escape (isHexDigit_hexDigit (by omega)) (isHexDigit_hexDigit (by omega)) ih

/-- An escaped text is written with the characters that are kept. -/
theorem isWritten_encode (s : List Char) : IsWritten keep (encode keep s) := by
  induction s with
  | nil => exact .nil
  | cons c s ih =>
    cases hkeep : keep c with
    | true =>
      rw [encode_cons_of_keep s hkeep]
      exact .kept hkeep ih
    | false =>
      rw [encode_cons_of_not_keep s hkeep]
      exact (isWritten_flatMap_escapeOctet _).append ih

/-- Nothing that is there is left out of an escaped text. -/
theorem encode_eq_nil_iff : encode keep s = [] ↔ s = [] := by
  cases s with
  | nil => exact iff_of_true rfl rfl
  | cons c s =>
    refine iff_of_false ?_ (List.cons_ne_nil c s)
    cases hkeep : keep c with
    | true => simp [encode_cons_of_keep s hkeep]
    | false =>
      have hne : String.utf8EncodeChar c ≠ [] := String.utf8EncodeChar_ne_nil
      obtain ⟨b, octets, hoctets⟩ := List.exists_cons_of_ne_nil hne
      simp [encode_cons_of_not_keep s hkeep, hoctets, escapeOctet]

/-- A character that neither a text nor any escape has is not in the text escaped. -/
theorem not_mem_encode {mark : Char} (hmark : mark ∉ s) (hpercent : mark ≠ '%')
    (hdigit : ¬IsHexDigit mark) : mark ∉ encode keep s := by
  intro hmem
  obtain ⟨c, hc, hmem⟩ := List.mem_flatMap.1 hmem
  rw [encodeChar] at hmem
  split at hmem
  · exact hmark (List.mem_singleton.1 hmem ▸ hc)
  · have hwritten : IsWritten (fun _ => false) ((String.utf8EncodeChar c).flatMap escapeOctet) :=
      isWritten_flatMap_escapeOctet _
    obtain h | h | h := hwritten.of_mem hmem
    · cases h
    · exact hpercent h
    · exact hdigit h

/-- Nothing is escaped in a text whose characters are all kept. -/
theorem encode_of_forall_keep (h : ∀ c ∈ s, keep c = true) : encode keep s = s := by
  induction s with
  | nil => rfl
  | cons c s ih =>
    obtain ⟨hc, hs⟩ := List.forall_mem_cons.1 h
    rw [encode_cons_of_keep s hc, ih hs]

/-- Where the percent sign is escaped, a text stands for its own octets. -/
theorem octets_encode_of_not_keep (hpercent : keep '%' = false) (s : List Char) :
    octets (encode keep s) = Utf8.encode s := by
  induction s with
  | nil => simp [encode, octets]
  | cons c s ih =>
    cases hkeep : keep c with
    | true =>
      have hc : ¬StartsEscape (c :: encode keep s) := by
        rintro ⟨a, b, -, -, hprefix⟩
        obtain ⟨rfl, -⟩ := List.cons_prefix_cons.1 hprefix
        rw [hpercent] at hkeep
        cases hkeep
      rw [encode_cons_of_keep s hkeep, octets_cons_of_not hc, ih, Utf8.encode_cons]
    | false =>
      rw [encode_cons_of_not_keep s hkeep, octets_flatMap_escapeOctet_append, ih,
        Utf8.encode_cons]

/-- Where the percent sign is escaped, a text is read back from what is escaped. -/
theorem decode?_encode (hpercent : keep '%' = false) (s : List Char) :
    decode? (encode keep s) = some s := by
  rw [decode?, octets_encode_of_not_keep hpercent, Utf8.decode?_encode]

end

end Percent

end ODataSession
