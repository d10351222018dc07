import ODataSession.Decimal.Shortest
import ODataSession.Text.Quoted

/-!
# Literals and operands

The values that stand in filter expressions and in key paths. Numbers are written bare and text
is written quoted, so that the first character of a literal tells where it ends: `render` is the
one place that decides. Every value type that can be compared with enters through `ToLiteral`.
An operand is one literal or a list of them.
-/

namespace ODataSession

/-- A typed value of a filter expression or a key path. -/
inductive Literal
  | integer (n : Int64)
  | unsigned (n : UInt64)
  | float (x : Float)
  | text (s : String)
  deriving BEq, Inhabited

namespace Literal

/-- Any printed value, as quoted text. -/
def display {α : Type} [ToString α] (a : α) : Literal :=
  .text (toString a)

/-- A literal is numeric when it is written without quotes. -/
def isNumeric : Literal → Bool
  | .text _ => false
  | _ => true

/-- Numbers stand bare, text stands between single quotes with the quotes inside doubled. -/
def render : Literal → String
  | .integer n => toString n.toInt
  | .unsigned n => toString n.toNat
  | .float x => Decimal.plainText x
  | .text s => String.ofList (Quoted.render s.toList)

end Literal

/-- The types whose values can stand as literals. -/
class ToLiteral (α : Type) where
  toLiteral : α → Literal

export ToLiteral (toLiteral)

namespace ToLiteral

instance : ToLiteral Literal := ⟨id⟩
instance : ToLiteral Int8 := ⟨fun n => .integer n.toInt64⟩
instance : ToLiteral Int16 := ⟨fun n => .integer n.toInt64⟩
instance : ToLiteral Int32 := ⟨fun n => .integer n.toInt64⟩
instance : ToLiteral Int64 := ⟨.integer⟩
instance : ToLiteral ISize := ⟨fun n => .integer n.toInt64⟩
instance : ToLiteral UInt8 := ⟨fun n => .integer (Int64.ofNat n.toNat)⟩
instance : ToLiteral UInt16 := ⟨fun n => .integer (Int64.ofNat n.toNat)⟩
instance : ToLiteral UInt32 := ⟨fun n => .integer (Int64.ofNat n.toNat)⟩
instance : ToLiteral UInt64 := ⟨.unsigned⟩
instance : ToLiteral USize := ⟨fun n => .unsigned n.toUInt64⟩
instance : ToLiteral Float := ⟨.float⟩
instance : ToLiteral Float32 := ⟨fun x => .float x.toFloat⟩
instance : ToLiteral Bool := ⟨.display⟩
instance : ToLiteral Char := ⟨.display⟩
instance : ToLiteral String := ⟨.text⟩

end ToLiteral

/-- The text of a value as a literal. -/
def escape {α : Type} [ToLiteral α] (a : α) : String :=
  (toLiteral a).render

/-- What an operator is applied to. -/
inductive Operand
  | scalar (value : Literal)
  | list (values : List Literal)
  deriving BEq, Inhabited

namespace Operand

/-- A single value as an operand. -/
def ofValue {α : Type} [ToLiteral α] (a : α) : Operand :=
  .scalar (toLiteral a)

/-- A list of values as an operand. -/
def ofValues {α : Type} [ToLiteral α] (as : List α) : Operand :=
  .list (as.map toLiteral)

end Operand

end ODataSession
