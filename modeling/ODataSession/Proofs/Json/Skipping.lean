import ODataSession.Proofs.Json.Scanning
import ODataSession.Proofs.Json.Value

/-!
# Skipping values

The lenient reading takes every value of the grammar, and nothing behind it
(`Json.IsValue.exists_readValue`). This goes by induction on the value, as for values that were
written (`Json.ReadsBack`), but here there may be blanks on both sides of every item, name and
value. The blanks in front cost the reader no round, since it skips them itself.
-/

namespace ODataSession.Json

variable {reading : Reading} {fuel : Nat} {s rest part : List Char} {parts : List (List Char)}
  {opening closing : Char}

/-! ## What follows a part -/

/-- The other parts of an array or an object behind one of them, its closing bracket, and the text
behind that. -/
def following (closing : Char) : List (List Char) → List Char → List Char
  | [], rest => closing :: rest
  | part :: parts, rest => ',' :: (part ++ following closing parts rest)

/-- There is a comma in front of every other part. -/
theorem length_le_length_following (closing : Char) (parts : List (List Char)) (rest : List Char) :
    parts.length < (following closing parts rest).length := by
  induction parts with
  | nil => exact Nat.succ_pos _
  | cons part parts ih =>
    rw [following, List.length_cons, List.length_cons, List.length_append]
    omega

/-- A number ends behind a part. -/
theorem endsNumber_following {c : Char} (h : continuesNumber c = false) (parts : List (List Char))
    (rest : List Char) : EndsNumber (following c parts rest) := by
  cases parts with
  | nil => exact endsNumber_cons h rest
  | cons part parts => exact endsNumber_cons rfl _

/-- Parts with commas between them are the first one and what follows it. -/
theorem intercalate_append (part : List Char) (parts : List (List Char)) (rest : List Char) :
    [','].intercalate (part :: parts) ++ closing :: rest =
      part ++ following closing parts rest := by
  induction parts generalizing part with
  | nil => rw [List.intercalate_singleton, following]
  | cons next parts ih =>
    rw [List.intercalate_cons_cons, List.append_assoc, List.append_assoc, ih, following,
      List.singleton_append]

/-- What is read of an array or an object with parts in it. -/
theorem Encloses.append_eq (h : Encloses opening closing (part :: parts) s) (rest : List Char) :
    s ++ rest = opening :: (part ++ following closing parts rest) := by
  cases h with
  | some =>
    rw [List.cons_append, List.append_assoc, List.singleton_append, intercalate_append]

/-- What is read of an array or an object without parts. -/
theorem Encloses.append_eq_of_nil (h : Encloses opening closing [] s) (rest : List Char) :
    ∃ blank, IsBlank blank ∧ s ++ rest = opening :: (blank ++ closing :: rest) := by
  cases h with
  | @none blank hblank =>
    refine ⟨blank, hblank, ?_⟩
    rw [List.cons_append, List.append_assoc, List.singleton_append]

/-- What is read of a text and the blanks around it. -/
theorem Padded.chars_append (p : Padded) (rest : List Char) :
    p.chars ++ rest = p.before ++ (p.text ++ (p.behind ++ rest)) := by
  rw [chars, List.append_assoc, List.append_assoc]

/-- What is read of a member. -/
theorem Member.chars_append (m : Member) (rest : List Char) :
    m.chars ++ rest = m.name.before ++
      (m.name.text ++ (m.name.behind ++ ':' :: (m.value.chars ++ rest))) := by
  rw [chars, List.append_assoc, Padded.chars_append, List.cons_append]

/-! ## Blanks in front -/

/-- Blanks end in front of a character that is none. -/
theorem skipSpace_append_cons {blank : List Char} (h : IsBlank blank) {c : Char}
    (hc : isSpace c = false) (s : List Char) : skipSpace (blank ++ c :: s) = c :: s := by
  rw [skipSpace_append h, skipSpace_cons hc]

/-- Blanks in front of a value make no difference. -/
theorem readValueWithin_skipSpace (fuel : Nat) (s : List Char) :
    readValueWithin reading fuel (skipSpace s) = readValueWithin reading fuel s := by
  cases fuel with
  | zero => rw [readValueWithin, readValueWithin]
  | succ fuel => rw [readValueWithin, skipSpace_skipSpace, readValueWithin]

/-- Blanks in front of the items of an array make no difference. -/
theorem readItemsWithin_skipSpace (fuel : Nat) (s : List Char) :
    readItemsWithin reading fuel (skipSpace s) = readItemsWithin reading fuel s := by
  cases fuel with
  | zero => rw [readItemsWithin, readItemsWithin]
  | succ fuel => rw [readItemsWithin, readValueWithin_skipSpace, readItemsWithin]

/-- Blanks in front of the members of an object make no difference. -/
theorem readMembersWithin_skipSpace (fuel : Nat) (s : List Char) :
    readMembersWithin reading fuel (skipSpace s) = readMembersWithin reading fuel s := by
  cases fuel with
  | zero => rw [readMembersWithin, readMembersWithin]
  | succ fuel => rw [readMembersWithin, skipSpace_skipSpace, readMembersWithin]

/-- A value is read behind blanks. -/
theorem readValueWithin_append {blank : List Char} (h : IsBlank blank) (fuel : Nat)
    (s : List Char) :
    readValueWithin reading fuel (blank ++ s) = readValueWithin reading fuel s := by
  rw [← readValueWithin_skipSpace, skipSpace_append h, readValueWithin_skipSpace]

/-! ## First characters -/

/-- A number starts with a sign or a digit. -/
theorem IsNumber.exists_eq_cons (h : IsNumber s) :
    ∃ c t, s = c :: t ∧ (c = '-' || c.isDigit) = true := by
  obtain ⟨sign, whole, fraction, exponent, hsign, hwhole, -, -, rfl⟩ := h
  rw [List.mem_cons, List.mem_singleton] at hsign
  rcases hsign with rfl | rfl
  · obtain ⟨c, whole, rfl⟩ := List.exists_cons_of_ne_nil hwhole.1.1
    exact ⟨c, _, rfl, by rw [hwhole.1.2 c List.mem_cons_self, Bool.or_true]⟩
  · exact ⟨'-', _, rfl, rfl⟩

/-- An array or an object starts with its opening bracket. -/
theorem Encloses.exists_eq_cons (h : Encloses opening closing parts s) : ∃ t, s = opening :: t := by
  cases h <;> exact ⟨_, rfl⟩

/-- A value starts with a character that is neither a blank nor a closing bracket. -/
theorem IsValue.exists_eq_cons (h : IsValue s) :
    ∃ c t, s = c :: t ∧ isSpace c = false ∧ c ≠ ']' := by
  cases h with
  | word h =>
    have hall : ∀ s ∈ words, ∃ c, s = c :: s.tail ∧ isSpace c = false ∧ c ≠ ']' := by
      simp [words, isSpace]
    obtain ⟨c, hc⟩ := hall s h
    exact ⟨c, s.tail, hc⟩
  | number h =>
    obtain ⟨c, t, hcons, hc⟩ := h.exists_eq_cons
    obtain ⟨hspace, hmem⟩ := not_mem_of_startsNumber hc
    exact ⟨c, t, hcons, hspace, fun h => hmem (by simp [h])⟩
  | string h =>
    obtain ⟨body, hcons⟩ := h.exists_eq_cons
    exact ⟨'"', body, hcons, rfl, by decide⟩
  | array _ hs =>
    obtain ⟨t, hcons⟩ := hs.exists_eq_cons
    exact ⟨'[', t, hcons, rfl, by decide⟩
  | object _ _ hs =>
    obtain ⟨t, hcons⟩ := hs.exists_eq_cons
    exact ⟨'\x7b', t, hcons, rfl, by decide⟩

/-! ## Values -/

/-- A text is read as some value in front of any text that a number could not go on with. -/
def IsSkipped (s : List Char) : Prop :=
  ∀ fuel rest, 2 * s.length ≤ fuel + 2 → EndsNumber rest →
    ∃ v, readValueWithin .lenient (fuel + 1) (s ++ rest) = .ok (v, rest)

/-- The words of JSON are skipped. -/
theorem isSkipped_word (h : s ∈ words) : IsSkipped s := by
  intro fuel rest _ _
  simp only [words, List.mem_cons, List.not_mem_nil, or_false] at h
  rcases h with rfl | rfl | rfl
  · exact ⟨.null, rfl⟩
  · exact ⟨.bool true, rfl⟩
  · exact ⟨.bool false, rfl⟩

/-- Numbers are skipped. -/
theorem IsNumber.isSkipped (h : IsNumber s) : IsSkipped s := by
  intro fuel rest _ hrest
  obtain ⟨n, hscan⟩ := h.exists_scanNumber hrest
  obtain ⟨c, t, rfl, hc⟩ := h.exists_eq_cons
  exact ⟨.number n, readValueWithin_number hc hscan⟩

/-- Strings are skipped. -/
theorem IsString.isSkipped (h : IsString s) : IsSkipped s := by
  intro fuel rest _ _
  obtain ⟨body, rfl⟩ := h.exists_eq_cons
  obtain ⟨t, hscan⟩ := h.exists_scanString_lenient rest
  refine ⟨.string (String.ofList t), ?_⟩
  rw [List.cons_append, readValueWithin, skipSpace_cons rfl]
  change (scanString .lenient (body ++ rest) >>= _) = _
  rw [hscan]
  rfl

/-- A value has a character. -/
theorem IsValue.length_pos (h : IsValue s) : 0 < s.length := by
  obtain ⟨c, t, rfl, -⟩ := h.exists_eq_cons
  exact Nat.succ_pos _

section
variable {item : Padded} {items : List Padded} {m : Member} {members : List Member}

/-- An item starts with a character that is neither a blank nor a closing bracket. -/
theorem exists_skipSpace_item (h : IsValue item.text) (rest : List Char) :
    ∃ c s, skipSpace (item.chars ++ rest) = c :: s ∧ c ≠ ']' ∧
      c :: s = item.text ++ (item.behind ++ rest) := by
  obtain ⟨c, s, htext, hspace, hclose⟩ := h.exists_eq_cons
  refine ⟨c, s ++ (item.behind ++ rest), ?_, hclose, ?_⟩
  · rw [item.chars_append, htext, List.cons_append,
      skipSpace_append_cons item.before_isBlank hspace]
  · rw [htext, List.cons_append]

/-- A member starts with the quote of its name. -/
theorem skipSpace_member {body : List Char} (h : m.name.text = '"' :: body) (rest : List Char) :
    skipSpace (m.chars ++ rest) =
      '"' :: (body ++ (m.name.behind ++ ':' :: (m.value.chars ++ rest))) := by
  rw [m.chars_append, h, List.cons_append, skipSpace_append_cons m.name.before_isBlank rfl]

/-- An item is skipped with the blanks around it. -/
theorem exists_readValueWithin_chars (h : IsSkipped item.text)
    (hfuel : 2 * item.text.length ≤ fuel + 2) (hrest : EndsNumber rest) :
    ∃ v, readValueWithin .lenient (fuel + 1) (item.chars ++ rest) =
      .ok (v, item.behind ++ rest) := by
  rw [item.chars_append, readValueWithin_append item.before_isBlank]
  exact h fuel _ hfuel (endsNumber_append item.behind_isBlank hrest)

/-- The text of a part and the blanks around it are not shorter than the part. -/
theorem Padded.length_text_le (p : Padded) : p.text.length ≤ p.chars.length := by
  rw [chars, List.length_append, List.length_append]
  omega

/-- The items of an array are skipped. -/
theorem exists_readItemsWithin (hvalues : ∀ p ∈ item :: items, IsValue p.text)
    (hitems : ∀ p ∈ item :: items, IsSkipped p.text)
    (hfuel : 2 * (item.chars ++ following ']' (items.map Padded.chars) []).length ≤ fuel + 2)
    (rest : List Char) :
    ∃ vs, readItemsWithin .lenient fuel
      (item.chars ++ following ']' (items.map Padded.chars) rest) = .ok (vs, rest) := by
  -- an item costs one round of the loop and its value another one, for two characters at least
  induction items generalizing item fuel with
  | nil =>
    have hpos := (hvalues item List.mem_cons_self).length_pos
    have hle := item.length_text_le
    rw [List.map_nil, following, List.length_append, List.length_singleton] at hfuel
    obtain ⟨fuel, rfl⟩ : ∃ n, fuel = n + 2 := ⟨fuel - 2, by omega⟩
    have hitem : 2 * item.text.length ≤ fuel + 2 := by omega
    obtain ⟨v, hv⟩ := exists_readValueWithin_chars (hitems item List.mem_cons_self) hitem
      (endsNumber_cons (c := ']') rfl rest)
    refine ⟨[v], ?_⟩
    have hclose := skipSpace_append_cons item.behind_isBlank (c := ']') rfl rest
    rw [List.map_nil, following, readItemsWithin, hv]
    simp only [bind, Except.bind, hclose]
    rfl
  | cons next items ih =>
    have hpos := (hvalues item List.mem_cons_self).length_pos
    have hle := item.length_text_le
    rw [List.map_cons, following, List.length_append, List.length_cons] at hfuel
    obtain ⟨fuel, rfl⟩ : ∃ n, fuel = n + 2 := ⟨fuel - 2, by omega⟩
    have hitem : 2 * item.text.length ≤ fuel + 2 := by omega
    obtain ⟨v, hv⟩ := exists_readValueWithin_chars (hitems item List.mem_cons_self) hitem
      (endsNumber_following (c := ']') rfl ((next :: items).map Padded.chars) rest)
    have hmore : 2 * (next.chars ++ following ']' (items.map Padded.chars) []).length ≤
        fuel + 1 + 2 := by omega
    obtain ⟨vs, hvs⟩ :=
      ih (List.forall_mem_cons.1 hvalues).2 (List.forall_mem_cons.1 hitems).2 hmore
    refine ⟨v :: vs, ?_⟩
    have hcomma := skipSpace_append_cons item.behind_isBlank (c := ',') rfl
    rw [readItemsWithin, hv, List.map_cons, following]
    simp only [bind, Except.bind, hcomma, hvs]
    rfl

/-- An array is skipped with its items. -/
theorem isSkipped_array (hvalues : ∀ p ∈ items, IsValue p.text)
    (hitems : ∀ p ∈ items, IsSkipped p.text)
    (hs : Encloses '[' ']' (items.map Padded.chars) s) : IsSkipped s := by
  intro fuel rest hfuel _
  cases items with
  | nil =>
    obtain ⟨blank, hblank, heq⟩ := hs.append_eq_of_nil rest
    refine ⟨.array [], ?_⟩
    rw [heq, readValueWithin, skipSpace_cons rfl]
    simp only [skipSpace_append_cons (c := ']') hblank rfl]
    rfl
  | cons item items =>
    have hlength := congrArg List.length (hs.append_eq [])
    rw [List.append_nil, List.length_cons] at hlength
    have hmore : 2 * (item.chars ++ following ']' (items.map Padded.chars) []).length ≤
        fuel + 2 := by omega
    obtain ⟨vs, hvs⟩ := exists_readItemsWithin hvalues hitems hmore rest
    obtain ⟨c, t, hskip, hclose, -⟩ := exists_skipSpace_item (hvalues item List.mem_cons_self)
      (following ']' (items.map Padded.chars) rest)
    refine ⟨.array vs, ?_⟩
    rw [hs.append_eq]
    refine readValueWithin_items hskip hclose ?_
    rwa [← hskip, readItemsWithin_skipSpace]

/-- A member is skipped, and what follows it decides how the object goes on. -/
theorem exists_readMembersWithin_member (hname : IsString m.name.text)
    (hvalue : IsSkipped m.value.text) (hfuel : 2 * m.value.text.length ≤ fuel + 2)
    (hrest : EndsNumber rest) :
    ∃ k v, readMembersWithin .lenient (fuel + 2) (m.chars ++ rest) =
      match skipSpace (m.value.behind ++ rest) with
      | ',' :: rest => do
        let (members, rest) ← readMembersWithin .lenient (fuel + 1) rest
        return ((String.ofList k, v) :: members, rest)
      | '\x7d' :: rest => return ([(String.ofList k, v)], rest)
      | [] => throw .truncated
      | _ => throw .malformed := by
  obtain ⟨body, hbody⟩ := hname.exists_eq_cons
  rw [hbody] at hname
  obtain ⟨k, hk⟩ := hname.exists_scanString_lenient
    (m.name.behind ++ ':' :: (m.value.chars ++ rest))
  obtain ⟨v, hv⟩ := exists_readValueWithin_chars hvalue hfuel hrest
  have hcolon : scanColon (m.name.behind ++ ':' :: (m.value.chars ++ rest)) =
      .ok (m.value.chars ++ rest) := by
    rw [scanColon, skipSpace_append_cons m.name.behind_isBlank rfl]
    rfl
  refine ⟨k, v, ?_⟩
  rw [← readMembersWithin_skipSpace, skipSpace_member hbody]
  exact readMembersWithin_round hk hcolon hv

/-- A member is longer than its value. -/
theorem Member.length_value_lt (m : Member) : m.value.text.length < m.chars.length := by
  have := m.value.length_text_le
  rw [chars, List.length_append, List.length_cons]
  omega

/-- The members of an object are skipped. -/
theorem exists_readMembersWithin (hnames : ∀ p ∈ m :: members, IsString p.name.text)
    (hvalues : ∀ p ∈ m :: members, IsSkipped p.value.text)
    (hfuel : 2 * (m.chars ++ following '\x7d' (members.map Member.chars) []).length ≤ fuel + 2)
    (rest : List Char) :
    ∃ ms, readMembersWithin .lenient fuel
      (m.chars ++ following '\x7d' (members.map Member.chars) rest) = .ok (ms, rest) := by
  induction members generalizing m fuel with
  | nil =>
    have hlt := m.length_value_lt
    rw [List.map_nil, following, List.length_append, List.length_singleton] at hfuel
    obtain ⟨fuel, rfl⟩ : ∃ n, fuel = n + 2 := ⟨fuel - 2, by omega⟩
    have hvalue : 2 * m.value.text.length ≤ fuel + 2 := by omega
    obtain ⟨k, v, hread⟩ := exists_readMembersWithin_member (hnames m List.mem_cons_self)
      (hvalues m List.mem_cons_self) hvalue (endsNumber_cons (c := '\x7d') rfl rest)
    refine ⟨[(String.ofList k, v)], ?_⟩
    rw [List.map_nil, following, hread, skipSpace_append_cons m.value.behind_isBlank rfl]
    rfl
  | cons next members ih =>
    have hlt := m.length_value_lt
    rw [List.map_cons, following, List.length_append, List.length_cons] at hfuel
    obtain ⟨fuel, rfl⟩ : ∃ n, fuel = n + 2 := ⟨fuel - 2, by omega⟩
    have hvalue : 2 * m.value.text.length ≤ fuel + 2 := by omega
    obtain ⟨k, v, hread⟩ := exists_readMembersWithin_member (hnames m List.mem_cons_self)
      (hvalues m List.mem_cons_self) hvalue
      (endsNumber_following (c := '\x7d') rfl ((next :: members).map Member.chars) rest)
    have hmore : 2 * (next.chars ++ following '\x7d' (members.map Member.chars) []).length ≤
        fuel + 1 + 2 := by omega
    obtain ⟨ms, hms⟩ :=
      ih (List.forall_mem_cons.1 hnames).2 (List.forall_mem_cons.1 hvalues).2 hmore
    refine ⟨(String.ofList k, v) :: ms, ?_⟩
    rw [hread, List.map_cons, following, skipSpace_append_cons m.value.behind_isBlank rfl]
    simp only [hms]
    rfl

/-- An object is skipped with its members. -/
theorem isSkipped_object (hnames : ∀ m ∈ members, IsString m.name.text)
    (hvalues : ∀ m ∈ members, IsSkipped m.value.text)
    (hs : Encloses '\x7b' '\x7d' (members.map Member.chars) s) : IsSkipped s := by
  intro fuel rest hfuel _
  cases members with
  | nil =>
    obtain ⟨blank, hblank, heq⟩ := hs.append_eq_of_nil rest
    refine ⟨.object [], ?_⟩
    rw [heq, readValueWithin, skipSpace_cons rfl]
    simp only [skipSpace_append_cons (c := '\x7d') hblank rfl]
    rfl
  | cons m members =>
    have hlength := congrArg List.length (hs.append_eq [])
    rw [List.append_nil, List.length_cons] at hlength
    have hmore : 2 * (m.chars ++ following '\x7d' (members.map Member.chars) []).length ≤
        fuel + 2 := by omega
    obtain ⟨ms, hms⟩ := exists_readMembersWithin hnames hvalues hmore rest
    obtain ⟨body, hbody⟩ := (hnames m List.mem_cons_self).exists_eq_cons
    have hskip := skipSpace_member hbody (following '\x7d' (members.map Member.chars) rest)
    refine ⟨.object ms, ?_⟩
    rw [← readMembersWithin_skipSpace, hskip] at hms
    rw [hs.append_eq, readValueWithin, skipSpace_cons rfl]
    simp only [hskip]
    change (readMembersWithin .lenient fuel _ >>= _) = _
    rw [hms]
    rfl

end

/-- Every value of the grammar is skipped. -/
theorem IsValue.isSkipped (h : IsValue s) : IsSkipped s := by
  induction h with
  | word h => exact isSkipped_word h
  | number h => exact h.isSkipped
  | string h => exact h.isSkipped
  | array hitems hs ih => exact isSkipped_array hitems ih hs
  | object hnames _ hs ih => exact isSkipped_object hnames ih hs

/-- The lenient reading takes every value of the grammar, and nothing behind it. -/
theorem IsValue.exists_readValue (h : IsValue s) {blank : List Char} (hblank : IsBlank blank)
    (hrest : EndsNumber rest) :
    ∃ v, readValue .lenient (blank ++ (s ++ rest)) = .ok (v, rest) := by
  rw [readValue, readValueWithin_append hblank]
  refine h.isSkipped _ rest ?_ hrest
  rw [List.length_append, List.length_append]
  omega

end ODataSession.Json
