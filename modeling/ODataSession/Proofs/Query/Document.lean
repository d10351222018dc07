import Mathlib.Data.List.Forall2
import ODataSession.Proofs.Json.Value
import ODataSession.Proofs.Query.Entries

/-!
# Parameters as JSON documents

The JSON text of parameters is an object whose names and texts stand between quotes, each character
in the way that it has (`Json.IsQuoted`), and whose integers are digits. A reader finds in it the
names in their order and the values with their types. Since the values are texts and integers of 64
bits, the text is read back as what was written (`Json.parse_compact`), and nothing of the
parameters is lost on the way to it (`QueryParameters.toJson_inj`). So the text tells the parameters
apart (`QueryParameters.json_isFaithful`).
-/

namespace ODataSession

namespace Json

/-- A text as it stands in a document: between quotes, and each character in the way that it has. -/
def IsQuoted (s t : List Char) : Prop :=
  ∃ escapes, List.Forall₂ Escape s escapes ∧ t = '"' :: (escapes.flatten ++ ['"'])

/-- A text is written as it stands in a document. -/
theorem isQuoted_quoted (s : List Char) : IsQuoted s (quoted s) := by
  refine ⟨s.map escapeChar, ?_, rfl⟩
  rw [List.forall₂_map_right_iff, List.forall₂_same]
  exact fun c _ => escape_escapeChar c

/-- A member of an object: its name, a colon and its value. -/
def memberChars (m : String × Json) : List Char :=
  quoted m.1.toList ++ ':' :: m.2.chars

/-- The members of an object are joined by commas. -/
theorem membersChars_eq_intercalate (members : List (String × Json)) :
    membersChars members = [','].intercalate (members.map memberChars) := by
  induction members with
  | nil => rw [membersChars, List.map_nil, List.intercalate_nil]
  | cons m members ih =>
    obtain ⟨k, v⟩ := m
    cases members with
    | nil => rw [membersChars, List.map_singleton, List.intercalate_singleton, memberChars]
    | cons m members =>
      have hjoined : [','].intercalate (((k, v) :: m :: members).map memberChars) =
          memberChars (k, v) ++ [','] ++ [','].intercalate ((m :: members).map memberChars) :=
        List.intercalate_cons_cons
      rw [hjoined, ← ih, membersChars, memberChars, List.append_assoc _ [','],
        List.singleton_append]

end Json

/-- How the value of a parameter stands in a document: a text between quotes, and an integer as its
digits. -/
inductive ParameterValue.IsWrittenAs : ParameterValue → List Char → Prop
  | text {s : String} {t : List Char} (h : Json.IsQuoted s.toList t) : IsWrittenAs (.text s) t
  | integer (n : UInt64) : IsWrittenAs (.integer n) (Nat.toDigits 10 n.toNat)

/-- A value of a JSON document is that of a parameter: a text is the string, and an integer is the
number that is written without sign, point and exponent. -/
inductive ParameterValue.IsReadAs : ParameterValue → Json → Prop
  | text (s : String) : IsReadAs (.text s) (.string s)
  | integer {n : UInt64} {numeral : Numeral} (h : numeral.natural? = some n.toNat) :
    IsReadAs (.integer n) (.number numeral)

/-- A natural number is an integer. -/
theorem Numeral.ofNat_eq_ofInt (n : Nat) : Numeral.ofNat n = .ofInt n := by
  simp [ofNat, ofInt]

/-- A number of 64 bits without a sign is one of those that are written with their digits. -/
theorem Numeral.bounds_toNat (n : UInt64) :
    Int64.minValue.toInt ≤ (n.toNat : Int) ∧ (n.toNat : Int) < UInt64.size := by
  have hlow : Int64.minValue.toInt ≤ 0 := by decide
  exact ⟨by omega, Int.ofNat_lt.2 n.toNat_lt⟩

namespace ParameterValue

/-- A value is read as what it is. -/
theorem isReadAs_toJson (value : ParameterValue) : value.IsReadAs value.toJson := by
  cases value with
  | text s => exact .text s
  | integer n => exact .integer rfl

/-- The number of an integer is one of 64 bits. -/
theorem isIntegral_toJson (value : ParameterValue) : value.toJson.IsIntegral := by
  cases value with
  | text s => exact .string s
  | integer n =>
    obtain ⟨hlow, hhigh⟩ := Numeral.bounds_toNat n
    rw [toJson, Json.ofNat, Numeral.ofNat_eq_ofInt]
    exact .number hlow hhigh

/-- A value is written as it stands in a document. -/
theorem isWrittenAs_chars (value : ParameterValue) : value.IsWrittenAs value.toJson.chars := by
  cases value with
  | text s =>
    rw [toJson, Json.chars]
    exact .text (Json.isQuoted_quoted s.toList)
  | integer n =>
    obtain ⟨hlow, hhigh⟩ := Numeral.bounds_toNat n
    have hsign : decide ((n.toNat : Int) < 0) = false := decide_eq_false (by omega)
    rw [toJson, Json.ofNat, Json.chars, Numeral.ofNat_eq_ofInt, Numeral.compact_ofInt hlow hhigh,
      hsign, Decimal.signed, if_neg Bool.false_ne_true, Int.natAbs_natCast]
    exact .integer n

/-- Different values are different in a document. -/
theorem toJson_inj {value value' : ParameterValue} (h : value.toJson = value'.toJson) :
    value = value' := by
  cases value with
  | text s =>
    cases value' with
    | text s' => exact congrArg text (Json.string.inj h)
    | integer n => cases h
  | integer n =>
    cases value' with
    | text s => cases h
    | integer n' =>
      have hnumber : n.toNat = n'.toNat := congrArg Numeral.whole (Json.number.inj h)
      rw [UInt64.toNat_inj.1 hnumber]

end ParameterValue

namespace QueryParameters

variable {p q : QueryParameters}

/-- The document of parameters holds integers of 64 bits only. -/
theorem isIntegral_toJson (p : QueryParameters) : p.toJson.IsIntegral := by
  refine .object fun member hmember => ?_
  obtain ⟨entry, -, rfl⟩ := List.mem_map.1 hmember
  exact entry.2.isIntegral_toJson

/-- Different parameters have different documents. -/
theorem toJson_inj (h : p.toJson = q.toJson) : p = q := by
  have hentry : Function.Injective fun entry : String × ParameterValue =>
      (entry.1, entry.2.toJson) := by
    rintro ⟨key, value⟩ ⟨key', value'⟩ heq
    obtain ⟨hkey, hvalue⟩ := Prod.mk.inj heq
    exact Prod.ext hkey (ParameterValue.toJson_inj hvalue)
  obtain ⟨entries⟩ := p
  obtain ⟨entries'⟩ := q
  exact congrArg mk (List.map_injective_iff.2 hentry (Json.object.inj h))

/-- Parameters are different if their texts are. -/
theorem json_inj : p.json = q.json ↔ p = q := by
  rw [json, json, Json.compact_inj p.isIntegral_toJson q.isIntegral_toJson]
  exact ⟨toJson_inj, fun h => h ▸ rfl⟩

/-- The JSON text of parameters tells everything of them. -/
structure IsFaithful (p : QueryParameters) : Prop where
  /-- The text is an object without blanks, and its members are the parameters in their order: the
  name between quotes, a colon, and the value. -/
  written : ∃ members, p.json.toList = '\x7b' :: ([','].intercalate members ++ ['\x7d']) ∧
    List.Forall₂ (fun entry member => ∃ name value, Json.IsQuoted entry.1.toList name ∧
      entry.2.IsWrittenAs value ∧ member = name ++ ':' :: value) p.entries members
  /-- A reader accepts the text and finds an object that has the names of the parameters, in their
  order and with their values. -/
  reads : ∃ members, Json.parse p.json = .ok (.object members) ∧
    List.Forall₂ (fun entry member => member.1 = entry.1 ∧ entry.2.IsReadAs member.2) p.entries
      members
  /-- Only equal parameters have the same text. -/
  json_eq_iff : ∀ q : QueryParameters, p.json = q.json ↔ p = q
  /-- A text is no integer, whatever it spells. -/
  text_ne_integer : ∀ key s n,
    (p.insert key (.text s)).json ≠ (p.insert key (.integer n)).json

/-- The JSON text of parameters is faithful. -/
theorem json_isFaithful (p : QueryParameters) : p.IsFaithful where
  written := by
    refine ⟨p.entries.map fun entry => Json.memberChars (entry.1, entry.2.toJson), ?_, ?_⟩
    · rw [json, Json.compact, String.toList_ofList, toJson, Json.chars,
        Json.membersChars_eq_intercalate, List.map_map]
      rfl
    · rw [List.forall₂_map_right_iff, List.forall₂_same]
      exact fun entry _ => ⟨_, _, Json.isQuoted_quoted _, entry.2.isWrittenAs_chars, rfl⟩
  reads := by
    refine ⟨_, Json.parse_compact p.isIntegral_toJson, ?_⟩
    rw [List.forall₂_map_right_iff, List.forall₂_same]
    exact fun entry _ => ⟨rfl, entry.2.isReadAs_toJson⟩
  json_eq_iff q := json_inj
  text_ne_integer key s n hsame := by
    have hvalue := congrArg (·.get? key) (json_inj.1 hsame)
    simp [get?_insert] at hvalue

end QueryParameters

end ODataSession
