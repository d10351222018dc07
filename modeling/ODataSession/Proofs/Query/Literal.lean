import ODataSession.Query.Literal

/-!
# How literals are written

A number is written with letters, digits, a dash and a point, and has at least one character
(`Literal.isNumberChar_of_mem_render`, `Literal.render_ne_empty`). This covers the texts of doubles
too, whatever digits the shortest decimal has and however many zeros fill it up. A text between
quotes is read back up to its last quote whatever quotes it holds (`Quoted.readInside_double`).
-/

namespace ODataSession

/-! ## Numbers -/

/-- The characters that numbers are written with. -/
def isNumberChar (c : Char) : Bool :=
  c.isAlphanum || c = '-' || c = '.'

namespace Decimal

/-- A natural number is written with digits. -/
theorem isNumberChar_of_mem_toDigits {n : Nat} {c : Char} (h : c ∈ Nat.toDigits 10 n) :
    isNumberChar c := by
  simp [isNumberChar, Char.isAlphanum, Nat.isDigit_of_mem_toDigits (by decide) (by decide) h]

/-- A decimal without an exponent is written with digits and a point. -/
theorem Scientific.isNumberChar_of_mem_positional {s : Scientific} {c : Char}
    (h : c ∈ s.positional) : isNumberChar c := by
  have hzeros : ∀ n, c ∈ List.replicate n '0' → isNumberChar c := by
    intro n hc
    rw [(List.mem_replicate.1 hc).2]
    rfl
  simp only [positional] at h
  split at h
  · rcases List.mem_append.1 h with h | h
    · exact isNumberChar_of_mem_toDigits h
    · exact hzeros _ h
  · have hpadded : ∀ n, c ∈ List.replicate n '0' ++ Nat.toDigits 10 s.digits → isNumberChar c := by
      intro n hc
      rcases List.mem_append.1 hc with hc | hc
      · exact hzeros _ hc
      · exact isNumberChar_of_mem_toDigits hc
    rcases List.mem_append.1 h with h | h
    · exact hpadded _ (List.mem_of_mem_take h)
    · rcases List.mem_cons.1 h with rfl | h
      · rfl
      · exact hpadded _ (List.mem_of_mem_drop h)

/-- A decimal without an exponent has a character. -/
theorem Scientific.positional_ne_nil (s : Scientific) : s.positional ≠ [] := by
  simp only [positional]
  split
  · exact List.append_ne_nil_of_left_ne_nil Nat.toDigits_ne_nil _
  · exact List.append_ne_nil_of_right_ne_nil _ (List.cons_ne_nil _ _)

/-- A sign is written with a dash. -/
theorem isNumberChar_of_mem_signed {negative : Bool} {text : List Char} {c : Char}
    (htext : ∀ c ∈ text, isNumberChar c) (h : c ∈ signed negative text) : isNumberChar c := by
  unfold signed at h
  split at h
  · rcases List.mem_cons.1 h with rfl | h
    · rfl
    · exact htext c h
  · exact htext c h

/-- A sign takes no character away. -/
theorem signed_ne_nil {negative : Bool} {text : List Char} (h : text ≠ []) :
    signed negative text ≠ [] := by
  unfold signed
  split
  · exact List.cons_ne_nil _ _
  · exact h

/-- A double is written with letters, digits, a dash and a point. -/
theorem Double.isNumberChar_of_mem_plain {d : Double} {c : Char} (h : c ∈ d.plain) :
    isNumberChar c := by
  cases d with
  | nan =>
    have hall : ∀ c ∈ "NaN".toList, isNumberChar c := List.all_eq_true.1 (by decide)
    exact hall c h
  | infinite =>
    have hall : ∀ c ∈ "inf".toList, isNumberChar c := List.all_eq_true.1 (by decide)
    exact isNumberChar_of_mem_signed hall h
  | zero =>
    have hall : ∀ c ∈ ['0'], isNumberChar c := List.all_eq_true.1 (by decide)
    exact isNumberChar_of_mem_signed hall h
  | finite =>
    exact isNumberChar_of_mem_signed (fun _ => Scientific.isNumberChar_of_mem_positional) h

/-- A double has a character. -/
theorem Double.plain_ne_nil (d : Double) : d.plain ≠ [] := by
  cases d with
  | nan => decide
  | infinite => exact signed_ne_nil (by decide)
  | zero => exact signed_ne_nil (by decide)
  | finite => exact signed_ne_nil (Scientific.positional_ne_nil _)

/-- An integer is written with its digits, behind a dash if it is negative. -/
theorem toList_toString_int (n : Int) :
    (toString n).toList = signed (n < 0) (Nat.toDigits 10 n.natAbs) := by
  cases n with
  | ofNat n =>
    change (Nat.repr n).toList = _
    simp [signed]
  | negSucc n =>
    change ("-" ++ Nat.repr (n + 1)).toList = _
    simp [signed]

end Decimal

namespace Literal

/-- The characters of a natural number that stands as a literal. -/
theorem toList_render_unsigned (n : UInt64) :
    (unsigned n).render.toList = Nat.toDigits 10 n.toNat :=
  Nat.toList_repr

/-- A number is written with letters, digits, a dash and a point. -/
theorem isNumberChar_of_mem_render {l : Literal} (h : l.isNumeric) {c : Char}
    (hc : c ∈ l.render.toList) : isNumberChar c := by
  cases l with
  | integer n =>
    rw [render, Decimal.toList_toString_int] at hc
    exact Decimal.isNumberChar_of_mem_signed (fun _ => Decimal.isNumberChar_of_mem_toDigits) hc
  | unsigned n =>
    rw [toList_render_unsigned] at hc
    exact Decimal.isNumberChar_of_mem_toDigits hc
  | float x =>
    rw [render, Decimal.plainText, String.toList_ofList] at hc
    exact Decimal.Double.isNumberChar_of_mem_plain hc
  | text s => cases h

/-- A number has a character. -/
theorem render_ne_nil {l : Literal} (h : l.isNumeric) : l.render.toList ≠ [] := by
  cases l with
  | integer n =>
    rw [render, Decimal.toList_toString_int]
    exact Decimal.signed_ne_nil Nat.toDigits_ne_nil
  | unsigned n =>
    rw [toList_render_unsigned]
    exact Nat.toDigits_ne_nil
  | float x =>
    rw [render, Decimal.plainText, String.toList_ofList]
    exact Decimal.Double.plain_ne_nil _
  | text s => cases h

end Literal

/-! ## Quoted texts -/

namespace Quoted

/-- What follows a quoted text is shorter than the text behind its first quote. -/
theorem length_rest_readInside {s inside rest : List Char}
    (h : readInside s = some (inside, rest)) : rest.length < s.length := by
  fun_induction readInside s generalizing inside with
  | case1 => cases h
  | case2 =>
    cases h
    exact Nat.one_pos
  | case3 => cases h
  | case4 s ih =>
    obtain ⟨⟨inside, rest⟩, hread, h⟩ := Option.map_eq_some_iff.1 h
    cases h
    exact Nat.lt_succ_of_lt (Nat.lt_succ_of_lt (ih hread))
  | case5 =>
    cases h
    exact Nat.lt_succ_self _
  | case6 _ _ _ _ ih =>
    obtain ⟨⟨inside, rest⟩, hread, h⟩ := Option.map_eq_some_iff.1 h
    cases h
    exact Nat.lt_succ_of_lt (ih hread)

/-- The inside of a quoted text is read back up to its last quote, if no quote follows that. -/
theorem readInside_double (s : List Char) {rest : List Char} (hrest : rest.head? ≠ some quote) :
    readInside (double s ++ quote :: rest) = some (s, rest) := by
  induction s with
  | nil =>
    cases rest with
    | nil => rfl
    | cons c rest =>
      have hc : c ≠ quote := fun h => hrest (congrArg some h)
      simp [double, readInside, hc]
  | cons c s ih =>
    by_cases hc : c = quote
    · simp [double, readInside, hc, ih]
    · -- The reader looks at two characters, and behind `c` there is always a second one.
      obtain ⟨d, t, hd⟩ : ∃ d t, double s ++ quote :: rest = d :: t :=
        List.exists_cons_of_ne_nil (by simp)
      rw [hd] at ih
      simp [double, readInside, hc, hd, ih]

end Quoted

end ODataSession
