import ODataSession.Json.Record
import ODataSession.Proofs.Json.Skipping

/-!
# Reading values of one type

A text, a flag or a number is read from the string, the word or the digits that it is written as
(`Json.Reads`). What is written otherwise may be taken or not, but no more than the value is taken,
whatever value it is (`Json.TakesWhole`); for a value is known by its first character
(`Json.IsValue.shape`).
-/

namespace ODataSession.Json

variable {α δ : Type} {read : RecordReader α} {a : α} {t : String} {c : Char}
  {s rest blank : List Char}

/-! ## Steps that succeed -/

/-- Two steps succeed only if both do. -/
theorem exists_of_bind_eq_ok {ε β : Type} {x : Except ε α} {f : α → Except ε β} {b : β}
    (h : (x >>= f) = .ok b) : ∃ a, x = .ok a ∧ f a = .ok b := by
  cases x with
  | error fault => cases h
  | ok a => exact ⟨a, rfl, h⟩

/-- A step that knows JSON only succeeds as it is. -/
theorem of_grammar_eq_ok {result : Except Fault α} (h : grammar result = .ok a) :
    result = .ok a := by
  cases result with
  | error fault => cases h
  | ok a' =>
    cases h
    rfl

/-! ## Shapes -/

/-- A value is known by its first character. -/
theorem IsValue.shape (h : IsValue (c :: s)) :
    (c ∈ ['n', 't', 'f'] ∧ c :: s ∈ words) ∨ ((c = '-' || c.isDigit) = true ∧ IsNumber (c :: s)) ∨
    (c = '"' ∧ IsString (c :: s)) ∨
    (c = '[' ∧ ∃ items : List Padded, (∀ p ∈ items, IsValue p.text) ∧
      Encloses '[' ']' (items.map Padded.chars) (c :: s)) ∨
    (c = '\x7b' ∧ ∃ members : List Member, (∀ m ∈ members, IsString m.name.text) ∧
      (∀ m ∈ members, IsValue m.value.text) ∧
      Encloses '\x7b' '\x7d' (members.map Member.chars) (c :: s)) := by
  cases h with
  | word h =>
    have hall : ∀ word ∈ words, ∀ c ∈ word.head?, c ∈ ['n', 't', 'f'] := by simp [words]
    exact .inl ⟨hall _ h c rfl, h⟩
  | number h =>
    obtain ⟨c, t, hcons, hc⟩ := h.exists_eq_cons
    cases hcons
    exact .inr (.inl ⟨hc, h⟩)
  | string h =>
    obtain ⟨body, hcons⟩ := h.exists_eq_cons
    cases hcons
    exact .inr (.inr (.inl ⟨rfl, h⟩))
  | @array items _ hitems hs =>
    obtain ⟨t, hcons⟩ := hs.exists_eq_cons
    cases hcons
    exact .inr (.inr (.inr (.inl ⟨rfl, items, hitems, hs⟩)))
  | @object members _ hnames hvalues hs =>
    obtain ⟨t, hcons⟩ := hs.exists_eq_cons
    cases hcons
    exact .inr (.inr (.inr (.inr ⟨rfl, members, hnames, hvalues, hs⟩)))

/-- A value that starts with the first letter of a word is the word. -/
theorem IsValue.mem_words (hc : c ∈ ['n', 't', 'f']) (h : IsValue (c :: s)) : c :: s ∈ words := by
  obtain ⟨-, h⟩ | ⟨hstart, -⟩ | ⟨rfl, -⟩ | ⟨rfl, -⟩ | ⟨rfl, -⟩ := h.shape
  · exact h
  · exact absurd hc fun hmem => (not_mem_of_startsNumber hstart).2 (by simp at hmem ⊢; tauto)
  all_goals exact absurd hc (by decide)

/-- A value that starts like a number is one. -/
theorem IsValue.isNumber (hc : (c = '-' || c.isDigit) = true) (h : IsValue (c :: s)) :
    IsNumber (c :: s) := by
  have hmem := (not_mem_of_startsNumber hc).2
  obtain ⟨hword, -⟩ | ⟨-, h⟩ | ⟨rfl, -⟩ | ⟨rfl, -⟩ | ⟨rfl, -⟩ := h.shape
  · exact absurd hword fun hword => hmem (by simp at hword ⊢; tauto)
  · exact h
  all_goals exact absurd hmem (by decide)

/-- A value that starts with a quote is a string. -/
theorem IsValue.isString (h : IsValue ('"' :: s)) : IsString ('"' :: s) := by
  obtain ⟨hc, -⟩ | ⟨hc, -⟩ | ⟨-, h⟩ | ⟨hc, -⟩ | ⟨hc, -⟩ := h.shape
  case inr.inr.inl => exact h
  all_goals exact absurd hc (by decide)

/-- A value that starts with a bracket is an array. -/
theorem IsValue.exists_items (h : IsValue ('[' :: s)) : ∃ items : List Padded,
    (∀ p ∈ items, IsValue p.text) ∧ Encloses '[' ']' (items.map Padded.chars) ('[' :: s) := by
  obtain ⟨hc, -⟩ | ⟨hc, -⟩ | ⟨hc, -⟩ | ⟨-, h⟩ | ⟨hc, -⟩ := h.shape
  case inr.inr.inr.inl => exact h
  all_goals exact absurd hc (by decide)

/-- A value that starts with a brace is an object. -/
theorem IsValue.exists_members (h : IsValue ('\x7b' :: s)) : ∃ members : List Member,
    (∀ m ∈ members, IsString m.name.text) ∧ (∀ m ∈ members, IsValue m.value.text) ∧
      Encloses '\x7b' '\x7d' (members.map Member.chars) ('\x7b' :: s) := by
  obtain ⟨hc, -⟩ | ⟨hc, -⟩ | ⟨hc, -⟩ | ⟨hc, -⟩ | ⟨-, h⟩ := h.shape
  case inr.inr.inr.inr => exact h
  all_goals exact absurd hc (by decide)

/-! ## Values of one type -/

/-- A text is read as a value, behind blanks and in front of any text that a number could not go on
with. -/
def Reads (read : RecordReader α) (s : List Char) (a : α) : Prop :=
  ∀ ⦃blank rest⦄, IsBlank blank → EndsNumber rest → read (blank ++ (s ++ rest)) = .ok (a, rest)

/-- A reader takes nothing behind a value, if it takes the value. -/
def TakesWhole (read : RecordReader α) : Prop :=
  ∀ ⦃blank s rest a r⦄, IsBlank blank → IsValue s → EndsNumber rest →
    read (blank ++ (s ++ rest)) = .ok (a, r) → r = rest

/-- A string is read as the text that it spells. -/
theorem reads_readText (h : Spells t s) : Reads readText s t := by
  intro blank rest hblank _
  obtain ⟨body, rfl⟩ := h.exists_eq_cons
  rw [List.cons_append, readText, skipSpace_append_cons hblank rfl]
  change (grammar (scanString .exact (body ++ rest)) >>= _) = _
  rw [h.scanString rest]
  change Except.ok (String.ofList t.toList, rest) = _
  rw [String.ofList_toList]

/-- Reading a text takes nothing behind the string. -/
theorem takesWhole_readText : TakesWhole readText := by
  intro blank s rest a r hblank hs _ hread
  obtain ⟨c, s, rfl, hspace, -⟩ := hs.exists_eq_cons
  rw [List.cons_append, readText, skipSpace_append_cons hblank hspace] at hread
  split at hread
  · next heq =>
    cases heq
    obtain ⟨⟨text, r'⟩, hscan, hr⟩ := exists_of_bind_eq_ok hread
    cases hr
    exact (hs.isString.spells_of_scanString (of_grammar_eq_ok hscan)).1
  · cases hread

/-- The word of a flag. -/
def flagWord (b : Bool) : List Char :=
  if b then "true".toList else "false".toList

/-- A word is read as its flag. -/
theorem reads_readFlag (b : Bool) : Reads readFlag (flagWord b) b := by
  intro blank rest hblank _
  cases b with
  | true =>
    change readFlag (blank ++ 't' :: ("rue".toList ++ rest)) = _
    rw [readFlag, skipSpace_append_cons hblank rfl]
    rfl
  | false =>
    change readFlag (blank ++ 'f' :: ("alse".toList ++ rest)) = _
    rw [readFlag, skipSpace_append_cons hblank rfl]
    rfl

/-- Reading a flag takes nothing behind the word. -/
theorem takesWhole_readFlag : TakesWhole readFlag := by
  intro blank s rest a r hblank hs _ hread
  obtain ⟨c, s, rfl, hspace, -⟩ := hs.exists_eq_cons
  rw [List.cons_append, readFlag, skipSpace_append_cons hblank hspace] at hread
  split at hread
  · next heq =>
    cases heq
    obtain rfl : s = "rue".toList := by simpa [words] using hs.mem_words (by decide)
    cases hread
    rfl
  · next heq =>
    cases heq
    obtain rfl : s = "alse".toList := by simpa [words] using hs.mem_words (by decide)
    cases hread
    rfl
  · cases hread

/-- A number that is not too large is read from its digits. -/
theorem reads_readNatural {n largest : Nat} (hn : n ≤ largest) (hlargest : largest < UInt64.size) :
    Reads (readNatural largest) (Nat.toDigits 10 n) n := by
  intro blank rest hblank hrest
  have hsmall : ¬UInt64.size ≤ n := by omega
  have hscan : scanNumber (Nat.toDigits 10 n ++ rest) = .ok (⟨false, n, [], none⟩, rest) :=
    scanNumber_signed hrest false n
  have hfinite : scanFiniteNumber (Nat.toDigits 10 n ++ rest) =
      .ok (⟨false, n, [], none⟩, rest) := by
    rw [scanFiniteNumber, hscan]
    change (if (decide (UInt64.size ≤ n) && _) = true then _ else _) = _
    rw [decide_eq_false hsmall]
    rfl
  obtain ⟨c, digits, hcons, hdigit, -⟩ := exists_toDigits_eq_cons n
  have hstart : (decide (c = '-') || c.isDigit) = true := by rw [hdigit, Bool.or_true]
  rw [hcons, List.cons_append] at hfinite ⊢
  rw [readNatural, skipSpace_append_cons hblank (not_mem_of_startsNumber hstart).1]
  change (if _ then _ else _) = _
  rw [if_pos hstart, hfinite]
  change (if n ≤ largest then _ else _) = _
  rw [if_pos hn]
  rfl

/-- A number that is finite is a number. -/
theorem scanNumber_of_scanFiniteNumber {n : Numeral} {r : List Char}
    (h : scanFiniteNumber s = .ok (n, r)) : scanNumber s = .ok (n, r) := by
  obtain ⟨⟨m, r'⟩, hscan, hfinite⟩ := exists_of_bind_eq_ok h
  rw [hscan]
  dsimp only at hfinite
  split at hfinite <;> split at hfinite <;> cases hfinite <;> rfl

/-- Reading a natural number takes nothing behind the number. -/
theorem takesWhole_readNatural (largest : Nat) : TakesWhole (readNatural largest) := by
  intro blank s rest a r hblank hs hrest hread
  obtain ⟨c, s, rfl, hspace, -⟩ := hs.exists_eq_cons
  rw [List.cons_append, readNatural, skipSpace_append_cons hblank hspace] at hread
  change (if _ then _ else _) = _ at hread
  split at hread
  · next hstart =>
    obtain ⟨⟨n, r'⟩, hscan, hr⟩ := exists_of_bind_eq_ok hread
    obtain ⟨n', hnumber⟩ := (hs.isNumber hstart).exists_scanNumber hrest
    have hsame := scanNumber_of_scanFiniteNumber (of_grammar_eq_ok hscan)
    rw [← List.cons_append, hnumber] at hsame
    cases hsame
    dsimp only at hr
    split at hr
    · split at hr <;> cases hr
      rfl
    · cases hr
  · cases hread

/-- The word for nothing is read as nothing. -/
theorem reads_readNullable_none : Reads (readNullable read) "null".toList none := by
  intro blank rest hblank _
  change readNullable read (blank ++ 'n' :: ("ull".toList ++ rest)) = _
  rw [readNullable, skipSpace_append_cons hblank rfl]
  rfl

/-- A value that may be left open is read like one that may not. -/
theorem reads_readNullable_some (h : Reads read (c :: s) a) (hspace : isSpace c = false)
    (hc : c ≠ 'n') : Reads (readNullable read) (c :: s) (some a) := by
  intro blank rest hblank hrest
  have hread := h isBlank_nil hrest
  rw [List.nil_append, List.cons_append] at hread
  rw [List.cons_append, readNullable, skipSpace_append_cons hblank hspace]
  split
  · next heq => exact absurd (List.cons.inj heq).1 hc
  · rw [hread]
    rfl

/-- Reading a value that may be left open takes nothing behind it. -/
theorem TakesWhole.readNullable (h : TakesWhole read) : TakesWhole (readNullable read) := by
  intro blank s rest a r hblank hs hrest hread
  obtain ⟨c, s, rfl, hspace, -⟩ := hs.exists_eq_cons
  rw [List.cons_append, Json.readNullable, skipSpace_append_cons hblank hspace] at hread
  split at hread
  · next heq =>
    cases heq
    obtain rfl : s = "ull".toList := by simpa [words] using hs.mem_words (by decide)
    cases hread
    rfl
  · obtain ⟨⟨b, r'⟩, hvalue, hr⟩ := exists_of_bind_eq_ok hread
    cases hr
    exact h isBlank_nil hs hrest hvalue

/-! ## Fields -/

/-- A field is read by the reader of its value. -/
theorem Reads.field {name : String} {set : δ → α → δ} {d d' : δ} (h : Reads read s a)
    (hset : set d a = d') : Reads ((Field.of name read set).read d) s d' := by
  intro blank rest hblank hrest
  change (read (blank ++ (s ++ rest)) >>= _) = _
  rw [h hblank hrest]
  exact congrArg (fun d => Except.ok (d, rest)) hset

/-- A field takes nothing behind a value, if it takes the value. -/
def Field.TakesWhole (field : Field δ) : Prop :=
  ∀ d, Json.TakesWhole (field.read d)

/-- A field takes nothing more than the reader of its value. -/
theorem TakesWhole.field (name : String) (h : TakesWhole read) (set : δ → α → δ) :
    (Field.of name read set).TakesWhole := by
  intro d blank s rest a r hblank hs hrest hread
  obtain ⟨⟨b, r'⟩, hvalue, hr⟩ := exists_of_bind_eq_ok hread
  cases hr
  exact h hblank hs hrest hvalue

end ODataSession.Json
