import ODataSession.Proofs.Json.Record

/-!
# Writing records

Every text has a string that spells it (`Json.spells_quoted`) and every natural number has digits,
so that there is an object for every choice of fields whose values can be written, in any order
(`Json.exists_holds`).
-/

namespace ODataSession.Json

variable {s : List Char} {entries : List Entry}

/-! ## Values -/

/-- The way in which a character is written spells it. -/
theorem Escape.spellsChar {c : Char} (h : Escape c s) : SpellsChar c s := by
  cases h with
  | mark hmark =>
    refine .letter ?_
    simp only [List.mem_cons, List.not_mem_nil, or_false] at hmark
    rcases hmark with rfl | rfl <;> decide
  | letter hletter => exact .letter (List.mem_append_right _ hletter)
  | @digits high low m n _ _ _ hhigh hlow hvalue =>
    have hquad : IsQuad (((0 * 16 + 0) * 16 + m) * 16 + n) ['0', '0', high, low] :=
      .mk rfl rfl hhigh hlow
    refine .codeUnit ?_
    rwa [← hvalue, ← Nat.zero_add m]
  | plain hmark hcontrol => exact .plain hmark hcontrol

/-- Every text is spelled by the string that it is written as. -/
theorem spells_quoted (t : String) : Spells t (quoted t.toList) := by
  refine ⟨t.toList.map escapeChar, List.forall₂_map_right_iff.2 ?_, ?_⟩
  · exact List.forall₂_same.2 fun c _ => (escape_escapeChar c).spellsChar
  · rw [quoted, enquoted, List.flatMap_def]

/-- The digits of a natural number are a number. -/
theorem isNumber_toDigits (n : Nat) : IsNumber (Nat.toDigits 10 n) := by
  refine ⟨[], Nat.toDigits 10 n, [], [], List.mem_cons_self, ⟨⟨Nat.toDigits_ne_nil, ?_⟩, ?_⟩, .none,
    .none, by simp⟩
  · exact fun c hc => Nat.isDigit_of_mem_toDigits (by decide) (by decide) hc
  · intro hzero
    obtain ⟨c, digits, hcons, -, hne⟩ := exists_toDigits_eq_cons n
    rw [hcons] at hzero
    by_cases hn : n = 0
    · rw [hn]
      rfl
    · exact absurd (Option.some.inj hzero) (hne hn)

/-- The word of a flag is a value. -/
theorem isValue_flagWord (b : Bool) : IsValue (flagWord b) := by
  cases b <;> exact .word (by decide)

/-! ## Objects -/

/-- An object is a value. -/
theorem IsObject.isValue (h : IsObject entries s) : IsValue s :=
  .object (List.forall_mem_map.2 fun e _ => e.spells.isString)
    (List.forall_mem_map.2 fun e _ => e.isValue) h.encloses

/-- An object in which fields stand is a value. -/
theorem Holds.isValue {δ : Type} {fields : List (Field δ)} {writes : String → List Char → Prop}
    {chosen : List String} (h : Holds fields writes chosen s) : IsValue s := by
  obtain ⟨-, entries, hobject, -⟩ := h
  exact hobject.isValue

/-- A member without blanks. -/
def Entry.compact (key : String) (h : IsValue s) : Entry where
  name := ⟨[], quoted key.toList, [], isBlank_nil, isBlank_nil⟩
  value := ⟨[], s, [], isBlank_nil, isBlank_nil⟩
  key
  spells := spells_quoted key
  isValue := h

/-- There is an object with any members. -/
theorem exists_isObject (entries : List Entry) : ∃ s, IsObject entries s := by
  cases entries with
  | nil => exact ⟨_, .none isBlank_nil⟩
  | cons e entries => exact ⟨_, .some _ _⟩

/-- There is an object for any fields whose values can be written, in any order. -/
theorem exists_holds {δ : Type} {fields : List (Field δ)} {writes : String → List Char → Prop}
    {chosen : List String} (hnodup : chosen.Nodup) (hfields : chosen ⊆ fieldNames fields)
    (hwrites : ∀ key ∈ chosen, ∃ s, writes key s ∧ IsValue s) :
    ∃ s, Holds fields writes chosen s := by
  have hentries : ∃ entries : List Entry, entries.map Entry.key = chosen ∧
      ∀ e ∈ entries, writes e.key e.value.text := by
    clear hnodup hfields
    induction chosen with
    | nil => exact ⟨[], rfl, nofun⟩
    | cons key chosen ih =>
      obtain ⟨⟨s, hs, hvalue⟩, hmore⟩ := List.forall_mem_cons.1 hwrites
      obtain ⟨entries, rfl, hentries⟩ := ih hmore
      exact ⟨.compact key hvalue :: entries, rfl, List.forall_mem_cons.2 ⟨hs, hentries⟩⟩
  obtain ⟨entries, rfl, hentries⟩ := hentries
  obtain ⟨s, hs⟩ := exists_isObject entries
  refine ⟨s, hnodup, entries, hs, ?_, fun e he _ => hentries e he⟩
  rw [fieldKeys, List.filter_eq_self.2 fun key hkey => decide_eq_true (hfields hkey)]

end ODataSession.Json
