import ODataSession.Json.Reader
import ODataSession.Proofs.Json.Token

/-!
# Reading written JSON

What `Json.compact` writes is read back as the value that it was written from, if the numbers in it
are integers of 64 bits (`Json.parse_compact`); other numbers are written as doubles. This goes by
induction on the value, for every text behind it that a number could not go on with
(`Json.ReadsBack`): what stands behind an item or a member is a comma or a closing bracket, and
neither goes on with a number. An item costs one round of the reader and its value another one, so
that two rounds for each character are enough.
-/

namespace ODataSession

/-! ## Numbers -/

namespace Numeral

/-- An integer. -/
def ofInt (i : Int) : Numeral := ⟨decide (i < 0), i.natAbs, [], none⟩

/-- An integer of 64 bits is written with its digits. -/
theorem compact_ofInt {i : Int} (hlow : Int64.minValue.toInt ≤ i) (hhigh : i < UInt64.size) :
    (ofInt i).compact = Decimal.signed (decide (i < 0)) (Nat.toDigits 10 i.natAbs) := by
  have hinteger : (ofInt i).integer? = some i := by
    change some (if decide (i < 0) = true then -(i.natAbs : Int) else i.natAbs) = some i
    simp only [decide_eq_true_eq, Option.some.injEq]
    split <;> omega
  have hzero : ((ofInt i).negative && decide ((ofInt i).whole = 0)) = false := by
    change (decide (i < 0) && decide (i.natAbs = 0)) = false
    rw [Bool.and_eq_false_iff, decide_eq_false_iff_not, decide_eq_false_iff_not]
    omega
  have hfits : ¬(decide (i < Int64.minValue.toInt) || decide ((UInt64.size : Int) ≤ i)) = true := by
    simp only [Bool.or_eq_true, decide_eq_true_eq, not_or, Int.not_lt, Int.not_le]
    exact ⟨hlow, hhigh⟩
  rw [compact, hinteger]
  simp only [hzero, Bool.false_or]
  rw [if_neg hfits, Decimal.toList_toString_int]

end Numeral

namespace Json

variable {reading : Reading} {v w : Json} {s rest : List Char} {fuel : Nat}

/-- A value whose numbers are integers of 64 bits. -/
inductive IsIntegral : Json → Prop
  | null : IsIntegral .null
  | bool (b : Bool) : IsIntegral (.bool b)
  | number {i : Int} (hlow : Int64.minValue.toInt ≤ i) (hhigh : i < UInt64.size) :
    IsIntegral (.number (.ofInt i))
  | string (s : String) : IsIntegral (.string s)
  | array {items : List Json} (h : ∀ v ∈ items, IsIntegral v) : IsIntegral (.array items)
  | object {members : List (String × Json)} (h : ∀ m ∈ members, IsIntegral m.2) :
    IsIntegral (.object members)

/-- Nothing is skipped in front of a character that is no blank. -/
theorem skipSpace_cons {c : Char} (h : isSpace c = false) (s : List Char) :
    skipSpace (c :: s) = c :: s := by
  rw [skipSpace, List.dropWhile_cons_of_neg (by simp [h])]

/-- A number starts with a character that nothing else starts with. -/
theorem not_mem_of_startsNumber {c : Char} (h : (c = '-' || c.isDigit) = true) :
    isSpace c = false ∧ c ∉ ['n', 't', 'f', '"', '[', '\x7b', ']'] := by
  have hall : ∀ c : Char, c.toNat < 58 → (c = '-' || c.isDigit) = true →
      isSpace c = false ∧ c ∉ ['n', 't', 'f', '"', '[', '\x7b', ']'] :=
    Text.forall_toNat_lt (by decide)
  have hbound : c.toNat < 58 := by
    rcases Bool.or_eq_true_iff.1 h with hminus | hdigit
    · rw [of_decide_eq_true hminus]
      decide
    · exact Nat.lt_succ_of_le (of_decide_eq_true (Bool.and_eq_true_iff.1 hdigit).2)
  exact hall c hbound h

/-- The first character of an integer. -/
theorem exists_signed_eq_cons (negative : Bool) (n : Nat) : ∃ c s,
    Decimal.signed negative (Nat.toDigits 10 n) = c :: s ∧ (c = '-' || c.isDigit) = true := by
  cases negative with
  | true => exact ⟨'-', _, rfl, rfl⟩
  | false =>
    obtain ⟨c, digits, hcons, hdigit, -⟩ := exists_toDigits_eq_cons n
    exact ⟨c, digits, hcons, by rw [hdigit, Bool.or_true]⟩

/-- A value starts with a character that is neither a blank nor a closing bracket. -/
theorem exists_chars_eq_cons (h : IsIntegral v) :
    ∃ c s, v.chars = c :: s ∧ isSpace c = false ∧ c ≠ ']' := by
  cases h with
  | null => exact ⟨'n', _, rfl, rfl, by decide⟩
  | bool b =>
    cases b with
    | false => exact ⟨'f', _, rfl, rfl, by decide⟩
    | true => exact ⟨'t', _, rfl, rfl, by decide⟩
  | @number i hlow hhigh =>
    obtain ⟨c, s, hcons, hc⟩ := exists_signed_eq_cons (decide (i < 0)) i.natAbs
    obtain ⟨hspace, hmem⟩ := not_mem_of_startsNumber hc
    refine ⟨c, s, ?_, hspace, fun h => hmem (by simp [h])⟩
    rw [chars, Numeral.compact_ofInt hlow hhigh, hcons]
  | string s => exact ⟨'"', _, by rw [chars, quoted], rfl, by decide⟩
  | array => exact ⟨'[', _, by rw [chars], rfl, by decide⟩
  | object => exact ⟨'\x7b', _, by rw [chars], rfl, by decide⟩

/-! ## Values -/

/-- A value is read back in front of any text that a number could not go on with. -/
def ReadsBack (reading : Reading) (v : Json) : Prop :=
  ∀ fuel rest, 2 * v.chars.length ≤ fuel + 2 → EndsNumber rest →
    readValueWithin reading (fuel + 1) (v.chars ++ rest) = .ok (v, rest)

/-- A number is read by its first character. -/
theorem readValueWithin_number {c : Char} {n : Numeral} (hc : (c = '-' || c.isDigit) = true)
    (hscan : scanNumber (c :: s) = .ok (n, rest)) :
    readValueWithin reading (fuel + 1) (c :: s) = .ok (.number n, rest) := by
  obtain ⟨hspace, hmem⟩ := not_mem_of_startsNumber hc
  simp only [List.mem_cons, List.not_mem_nil, or_false, not_or] at hmem
  obtain ⟨hnull, htrue, hfalse, hstring, harray, hobject, -⟩ := hmem
  have hread : scanNumberAs reading (c :: s) = .ok (n, rest) := by
    cases reading <;> simp only [scanNumberAs, hscan]
  rw [readValueWithin, skipSpace_cons hspace]
  simp only [if_neg hnull, if_neg htrue, if_neg hfalse, if_neg hstring, if_neg harray,
    if_neg hobject, if_pos hc, hread]
  rfl

/-- An integer is read back. -/
theorem readsBack_number {i : Int} (hlow : Int64.minValue.toInt ≤ i) (hhigh : i < UInt64.size) :
    ReadsBack reading (.number (.ofInt i)) := by
  intro fuel rest _ hrest
  obtain ⟨c, s, hcons, hc⟩ := exists_signed_eq_cons (decide (i < 0)) i.natAbs
  have hscan := scanNumber_signed hrest (decide (i < 0)) i.natAbs
  rw [chars, Numeral.compact_ofInt hlow hhigh]
  rw [hcons] at hscan ⊢
  exact readValueWithin_number hc hscan

/-- A string is read back. -/
theorem readsBack_string (s : String) : ReadsBack reading (.string s) := by
  intro fuel rest _ _
  rw [chars, quoted, List.cons_append, List.append_assoc, List.singleton_append, readValueWithin,
    skipSpace_cons rfl]
  change (scanString reading (s.toList.flatMap escapeChar ++ '"' :: rest) >>= _) = _
  rw [scanString_quoted]
  change Except.ok (Json.string (String.ofList s.toList), rest) = _
  rw [String.ofList_toList]

/-- A value has a character. -/
theorem length_chars_pos (h : IsIntegral v) : 0 < v.chars.length := by
  obtain ⟨c, s, hcons, -⟩ := exists_chars_eq_cons h
  rw [hcons]
  exact Nat.succ_pos _

/-- The items of an array are read back. -/
theorem readItemsWithin_itemsChars {items : List Json} (hne : items ≠ [])
    (hitems : ∀ v ∈ items, IsIntegral v) (hread : ∀ v ∈ items, ReadsBack reading v)
    (hfuel : 2 * (itemsChars items).length ≤ fuel) :
    readItemsWithin reading fuel (itemsChars items ++ ']' :: rest) = .ok (items, rest) := by
  induction items generalizing fuel with
  | nil => exact absurd rfl hne
  | cons v items ih =>
    have hpos := length_chars_pos (hitems v List.mem_cons_self)
    have hv := hread v List.mem_cons_self
    cases items with
    | nil =>
      rw [itemsChars] at hfuel ⊢
      obtain ⟨fuel, rfl⟩ : ∃ n, fuel = n + 2 := ⟨fuel - 2, by omega⟩
      rw [readItemsWithin, hv fuel _ hfuel (endsNumber_cons rfl rest)]
      rfl
    | cons w items =>
      rw [itemsChars, List.length_append, List.length_cons] at hfuel
      obtain ⟨fuel, rfl⟩ : ∃ n, fuel = n + 2 := ⟨fuel - 2, by omega⟩
      have hmore : readItemsWithin reading (fuel + 1) (itemsChars (w :: items) ++ ']' :: rest) =
          .ok (w :: items, rest) :=
        ih (List.cons_ne_nil w items) (fun u hu => hitems u (List.mem_cons_of_mem v hu))
          (fun u hu => hread u (List.mem_cons_of_mem v hu)) (by omega)
      rw [itemsChars, List.append_assoc, List.cons_append, readItemsWithin,
        hv fuel _ (by omega) (endsNumber_cons rfl _)]
      change (readItemsWithin reading (fuel + 1) _ >>= _) = _
      rw [hmore]
      rfl

/-- What follows a member decides how the object goes on. -/
theorem readMembersWithin_round {k : List Char} {colon value : List Char}
    (hname : scanString reading s = .ok (k, colon)) (hcolon : scanColon colon = .ok value)
    (hv : readValueWithin reading fuel value = .ok (v, rest)) :
    readMembersWithin reading (fuel + 1) ('"' :: s) =
      match skipSpace rest with
      | ',' :: rest => do
        let (members, rest) ← readMembersWithin reading fuel rest
        return ((String.ofList k, v) :: members, rest)
      | '\x7d' :: rest => return ([(String.ofList k, v)], rest)
      | [] => throw .truncated
      | _ => throw .malformed := by
  rw [readMembersWithin, skipSpace_cons rfl]
  change (scanString reading s >>= _) = _
  rw [hname]
  change (scanColon colon >>= _) = _
  rw [hcolon]
  change (readValueWithin reading fuel value >>= _) = _
  rw [hv]
  rfl

/-- A member is read back, and what follows it decides how the object goes on. -/
theorem readMembersWithin_member (k : String) (hv : ReadsBack reading v)
    (hfuel : 2 * v.chars.length ≤ fuel + 2) (hrest : EndsNumber rest) :
    readMembersWithin reading (fuel + 2) (quoted k.toList ++ ':' :: (v.chars ++ rest)) =
      match skipSpace rest with
      | ',' :: rest => do
        let (members, rest) ← readMembersWithin reading (fuel + 1) rest
        return ((k, v) :: members, rest)
      | '\x7d' :: rest => return ([(k, v)], rest)
      | [] => throw .truncated
      | _ => throw .malformed := by
  have hname := scanString_quoted reading k.toList (':' :: (v.chars ++ rest))
  have hround := readMembersWithin_round hname rfl (hv fuel rest hfuel hrest)
  rw [String.ofList_toList] at hround
  rw [quoted, List.cons_append, List.append_assoc, List.singleton_append]
  exact hround

/-- The members of an object are read back. -/
theorem readMembersWithin_membersChars {members : List (String × Json)} (hne : members ≠ [])
    (hread : ∀ m ∈ members, ReadsBack reading m.2)
    (hfuel : 2 * (membersChars members).length ≤ fuel) :
    readMembersWithin reading fuel (membersChars members ++ '\x7d' :: rest) =
      .ok (members, rest) := by
  induction members generalizing fuel with
  | nil => exact absurd rfl hne
  | cons m members ih =>
    obtain ⟨k, v⟩ := m
    have hv : ReadsBack reading v := hread (k, v) List.mem_cons_self
    cases members with
    | nil =>
      rw [membersChars, quoted] at hfuel
      simp only [List.length_cons, List.length_append] at hfuel
      obtain ⟨fuel, rfl⟩ : ∃ n, fuel = n + 2 := ⟨fuel - 2, by omega⟩
      rw [membersChars, List.append_assoc, List.cons_append,
        readMembersWithin_member k hv (by omega) (endsNumber_cons rfl rest), skipSpace_cons rfl]
      rfl
    | cons m members =>
      rw [membersChars, quoted] at hfuel
      simp only [List.length_cons, List.length_append] at hfuel
      obtain ⟨fuel, rfl⟩ : ∃ n, fuel = n + 2 := ⟨fuel - 2, by omega⟩
      have hmore : readMembersWithin reading (fuel + 1)
          (membersChars (m :: members) ++ '\x7d' :: rest) = .ok (m :: members, rest) :=
        ih (List.cons_ne_nil m members) (fun u hu => hread u (List.mem_cons_of_mem _ hu)) (by omega)
      rw [membersChars, List.append_assoc, List.append_assoc, List.cons_append, List.cons_append,
        readMembersWithin_member k hv (by omega) (endsNumber_cons rfl _), skipSpace_cons rfl]
      simp only [hmore]
      rfl

/-- The items of an array start with a character that is neither a blank nor a closing bracket. -/
theorem exists_itemsChars_eq_cons {items : List Json} (hne : items ≠ [])
    (hitems : ∀ v ∈ items, IsIntegral v) :
    ∃ c s, itemsChars items = c :: s ∧ isSpace c = false ∧ c ≠ ']' := by
  cases items with
  | nil => exact absurd rfl hne
  | cons v items =>
    obtain ⟨c, s, hcons, hc⟩ := exists_chars_eq_cons (hitems v List.mem_cons_self)
    cases items with
    | nil => exact ⟨c, s, by rw [itemsChars, hcons], hc⟩
    | cons w items => exact ⟨c, _, by rw [itemsChars, hcons, List.cons_append], hc⟩

/-- An array that does not close at once is read by its items. -/
theorem readValueWithin_items {t : List Char} {c : Char} {items : List Json}
    (hskip : skipSpace s = c :: t) (hclose : c ≠ ']')
    (hitems : readItemsWithin reading fuel (c :: t) = .ok (items, rest)) :
    readValueWithin reading (fuel + 1) ('[' :: s) = .ok (.array items, rest) := by
  rw [readValueWithin, skipSpace_cons rfl]
  simp only [hskip]
  rw [if_neg (by decide), if_neg (by decide), if_neg (by decide), if_neg (by decide),
    if_pos trivial]
  split
  · next heq => exact absurd (List.cons.inj heq).1 hclose
  · rw [hitems]
    rfl

/-- An array is read back with its items. -/
theorem readsBack_array {items : List Json} (hitems : ∀ v ∈ items, IsIntegral v)
    (hread : ∀ v ∈ items, ReadsBack reading v) : ReadsBack reading (.array items) := by
  intro fuel rest hfuel _
  rw [chars, List.length_cons, List.length_append] at hfuel
  rw [chars, List.cons_append, List.append_assoc, List.singleton_append]
  by_cases hne : items = []
  · subst hne
    rw [readValueWithin, skipSpace_cons rfl]
    rfl
  · have hmore : readItemsWithin reading fuel (itemsChars items ++ ']' :: rest) =
        .ok (items, rest) := readItemsWithin_itemsChars hne hitems hread (by omega)
    obtain ⟨c, s, hcons, hspace, hclose⟩ := exists_itemsChars_eq_cons hne hitems
    rw [hcons, List.cons_append] at hmore ⊢
    exact readValueWithin_items (skipSpace_cons hspace _) hclose hmore

/-- The members of an object start with the quote of a name. -/
theorem exists_membersChars_eq_cons {members : List (String × Json)} (hne : members ≠ []) :
    ∃ s, membersChars members = '"' :: s := by
  cases members with
  | nil => exact absurd rfl hne
  | cons m members =>
    cases members with
    | nil => exact ⟨_, by rw [membersChars, quoted, List.cons_append]⟩
    | cons m' members =>
      exact ⟨_, by rw [membersChars, quoted, List.cons_append, List.cons_append]⟩

/-- An object is read back with its members. -/
theorem readsBack_object {members : List (String × Json)}
    (hread : ∀ m ∈ members, ReadsBack reading m.2) : ReadsBack reading (.object members) := by
  intro fuel rest hfuel _
  rw [chars, List.length_cons, List.length_append] at hfuel
  rw [chars, List.cons_append, List.append_assoc, List.singleton_append, readValueWithin,
    skipSpace_cons rfl]
  by_cases hne : members = []
  · subst hne
    rfl
  · have hmore : readMembersWithin reading fuel (membersChars members ++ '\x7d' :: rest) =
        .ok (members, rest) := readMembersWithin_membersChars hne hread (by omega)
    obtain ⟨s, hcons⟩ := exists_membersChars_eq_cons hne
    rw [hcons, List.cons_append] at hmore ⊢
    change (readMembersWithin reading fuel ('"' :: (s ++ '\x7d' :: rest)) >>= _) = _
    rw [hmore]
    rfl

/-- Every value whose numbers are integers of 64 bits is read back. -/
theorem IsIntegral.readsBack (h : IsIntegral v) : ReadsBack reading v := by
  induction h with
  | null => exact fun _ _ _ _ => rfl
  | bool b => cases b <;> exact fun _ _ _ _ => rfl
  | number hlow hhigh => exact readsBack_number hlow hhigh
  | string s => exact readsBack_string s
  | array h ih => exact readsBack_array h ih
  | object _ ih => exact readsBack_object ih

/-- The text of a value is read back and nothing else. -/
theorem parse_compact (h : IsIntegral v) : parse v.compact = .ok v := by
  have hread : readValueWithin .exact (2 * v.chars.length + 2) (v.chars ++ []) = .ok (v, []) :=
    h.readsBack _ [] (by omega) nofun
  rw [List.append_nil] at hread
  rw [parse, readValue, compact, String.toList_ofList, hread]
  rfl

/-- Different values have different texts. -/
theorem compact_inj (hv : IsIntegral v) (hw : IsIntegral w) : v.compact = w.compact ↔ v = w := by
  refine ⟨fun h => ?_, fun h => h ▸ rfl⟩
  have hread := parse_compact hv
  rw [h, parse_compact hw] at hread
  exact (Except.ok.inj hread).symm

end Json

end ODataSession
