import Mathlib
import ODataSession.Proofs.Query.Literal

/-!
# Where literals end

A literal tells by itself where it ends (`Literal.isSelfDelimiting`). A text stands between quotes,
and reading stops at the first quote that no second quote follows. So all of the text is read and
nothing of what follows it, if that does not start with a quote of its own. A number starts with no
quote. An integer is its decimal text, whatever type it has: the literal that it becomes is at least
as wide as its type (`TypedInteger.integer?_literal`), and the digits are read back as the integer.

That digits are read back is `Int.toInt?_repr`, which comes with the library as a whole and with no
smaller part of it.
-/

namespace ODataSession

/-- An integer of one of the types whose integers can stand as literals. -/
inductive TypedInteger
  | int8 (n : Int8)
  | int16 (n : Int16)
  | int32 (n : Int32)
  | int64 (n : Int64)
  | isize (n : ISize)
  | uint8 (n : UInt8)
  | uint16 (n : UInt16)
  | uint32 (n : UInt32)
  | uint64 (n : UInt64)
  | usize (n : USize)

namespace TypedInteger

/-- The integer without its type. -/
def value : TypedInteger → Int
  | .int8 n => n.toInt
  | .int16 n => n.toInt
  | .int32 n => n.toInt
  | .int64 n => n.toInt
  | .isize n => n.toInt
  | .uint8 n => n.toNat
  | .uint16 n => n.toNat
  | .uint32 n => n.toNat
  | .uint64 n => n.toNat
  | .usize n => n.toNat

/-- The integer as a literal. -/
def literal : TypedInteger → Literal
  | .int8 n => toLiteral n
  | .int16 n => toLiteral n
  | .int32 n => toLiteral n
  | .int64 n => toLiteral n
  | .isize n => toLiteral n
  | .uint8 n => toLiteral n
  | .uint16 n => toLiteral n
  | .uint32 n => toLiteral n
  | .uint64 n => toLiteral n
  | .usize n => toLiteral n

end TypedInteger

namespace Literal

/-- The integer that a literal is. -/
def integer? : Literal → Option Int
  | .integer n => some n.toInt
  | .unsigned n => some n.toNat
  | .float _ | .text _ => none

/-- An integer is written as its decimal text. -/
theorem render_of_integer? {l : Literal} {i : Int} (h : l.integer? = some i) :
    l.render = toString i := by
  cases l with
  | integer n => rw [← Option.some.inj h, render]
  | unsigned n =>
    rw [← Option.some.inj h, render]
    rfl
  | float | text => cases h

/-- No number starts with a quote. -/
theorem head?_render_ne_quote {l : Literal} (h : l.isNumeric) :
    l.render.toList.head? ≠ some Quoted.quote := by
  intro hquote
  have hnumber := isNumberChar_of_mem_render h (List.mem_of_mem_head? hquote)
  have hno : isNumberChar Quoted.quote = false := by decide
  rw [hno] at hnumber
  cases hnumber

end Literal

namespace Quoted

/-- A quoted text is read up to its last quote, and nothing of what follows is. -/
theorem read?_render_append (s : List Char) {rest : List Char} (hrest : rest.head? ≠ some quote) :
    read? (render s ++ rest) = some (s, rest) := by
  rw [render, List.cons_append, List.append_assoc, List.singleton_append, read?, if_pos rfl]
  exact readInside_double s hrest

/-- No quoted text is read where no quote stands. -/
theorem read?_of_head?_ne {s : List Char} (h : s.head? ≠ some quote) : read? s = none := by
  cases s with
  | nil => rfl
  | cons c s => exact if_neg fun hc => h (congrArg some hc)

end Quoted

namespace TypedInteger

/-- No type is wider than the literal that its integers become. -/
theorem integer?_literal (n : TypedInteger) : n.literal.integer? = some n.value := by
  have hsmall : ∀ n < 2 ^ 32, (Int64.ofNat n).toInt = n := fun n hn =>
    Int64.toInt_ofNat_of_lt (by omega)
  cases n with
  | int8 n => exact congrArg some n.toInt_toInt64
  | int16 n => exact congrArg some n.toInt_toInt64
  | int32 n => exact congrArg some n.toInt_toInt64
  | int64 n => rfl
  | isize n => exact congrArg some n.toInt_toInt64
  | uint8 n => exact congrArg some (hsmall _ (Nat.lt_of_lt_of_le n.toNat_lt (by decide)))
  | uint16 n => exact congrArg some (hsmall _ (Nat.lt_of_lt_of_le n.toNat_lt (by decide)))
  | uint32 n => exact congrArg some (hsmall _ n.toNat_lt)
  | uint64 n => rfl
  | usize n => exact congrArg (some ∘ Int.ofNat) n.toNat_toUInt64

end TypedInteger

/-- A text is read back from its literal, whatever follows it but a quote. A number starts with no
quote, so that nothing is read as a text there. An integer of any type becomes a literal with the
same value, is written as a dash if it is negative and its digits, and is read back from them. -/
theorem Literal.isSelfDelimiting :
    (∀ (s : String) (rest : List Char), rest.head? ≠ some Quoted.quote →
      Quoted.read? ((escape s).toList ++ rest) = some (s.toList, rest)) ∧
    (∀ l : Literal, l.isNumeric → l.render.toList.head? ≠ some Quoted.quote ∧
      ∀ rest, Quoted.read? (l.render.toList ++ rest) = none) ∧
    ∀ n : TypedInteger, n.literal.integer? = some n.value ∧
      n.literal.render.toList =
        Decimal.signed (n.value < 0) (Nat.toDigits 10 n.value.natAbs) ∧
      n.literal.render.toInt? = some n.value := by
  refine ⟨fun s rest hrest => ?_, fun l hl => ⟨head?_render_ne_quote hl, fun rest => ?_⟩,
    fun n => ⟨n.integer?_literal, ?_, ?_⟩⟩
  · have htext : (escape s).toList = Quoted.render s.toList := String.toList_ofList
    rw [htext, Quoted.read?_render_append s.toList hrest]
  · refine Quoted.read?_of_head?_ne ?_
    rw [List.head?_append_of_ne_nil _ (render_ne_nil hl)]
    exact head?_render_ne_quote hl
  · rw [render_of_integer? n.integer?_literal, Decimal.toList_toString_int]
  · rw [render_of_integer? n.integer?_literal]
    exact Int.toInt?_repr n.value

/-- A text that ends in quotes is read up to the parenthesis behind it, and the least integer of 64
bits is read back from its digits. -/
theorem Literal.isSelfDelimiting_quotes :
    Quoted.read? ((escape "O'''").toList ++ [')']) = some ("O'''".toList, [')']) ∧
      Quoted.read? ((Literal.integer Int64.minValue).render.toList ++ [')']) = none ∧
      (Literal.integer Int64.minValue).render.toInt? = some (-9223372036854775808) := by
  obtain ⟨htext, hnumber, hinteger⟩ := isSelfDelimiting
  exact ⟨htext _ _ (by decide), (hnumber _ rfl).2 _, (hinteger (.int64 Int64.minValue)).2.2⟩

end ODataSession
