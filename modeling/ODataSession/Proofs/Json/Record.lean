import ODataSession.Proofs.Json.Member

/-!
# Reading records

An object is read into a record by its members, in whichever order they come
(`Json.reads_readRecord`). An object that is read has no two members with the name of one field, and
the fields take the values of their members (`Json.of_readRecord_object`). A record may be an array
too. Either way nothing is taken behind it (`Json.takesWhole_readRecord`), so that a record may be
the value of a field of another one.
-/

namespace ODataSession.Json

section
variable {δ : Type} {fields : List (Field δ)} {onto : δ → List String → δ} {d d' : δ}
  {s rest r blank : List Char} {parts : List (List Char)} {m : Member} {members : List Member}
  {entries : List Entry} {more : List (Field δ)} {item : Padded} {items : List Padded}

/-! ## Arrays -/

/-- An array whose fields have all been read has no other items. -/
theorem of_readArrayEnd (hblank : IsBlank blank)
    (h : readArrayEnd d (blank ++ following ']' parts rest) = .ok (d', r)) : r = rest := by
  cases parts with
  | nil =>
    rw [following, readArrayEnd, skipSpace_append_cons hblank rfl] at h
    cases h
    rfl
  | cons part parts =>
    rw [following, readArrayEnd, skipSpace_append_cons hblank rfl] at h
    cases h

/-- Items that are read end with their array. -/
theorem of_readMoreInOrder (hfields : ∀ field ∈ more, field.TakesWhole)
    (hvalues : ∀ p ∈ items, IsValue p.text) (hblank : IsBlank blank)
    (h : readMoreInOrder more d (blank ++ following ']' (items.map Padded.chars) rest) =
      .ok (d', r)) : r = rest := by
  induction more generalizing items blank d with
  | nil => exact of_readArrayEnd hblank h
  | cons field more ih =>
    obtain ⟨hfield, hmore⟩ := List.forall_mem_cons.1 hfields
    cases items with
    | nil =>
      rw [List.map_nil, following, readMoreInOrder, skipSpace_append_cons hblank rfl] at h
      cases h
      rfl
    | cons item items =>
      obtain ⟨hvalue, hvalues⟩ := List.forall_mem_cons.1 hvalues
      obtain ⟨c, s, hskip, hclose, hchars⟩ := exists_skipSpace_item hvalue
        (following ']' (items.map Padded.chars) rest)
      rw [List.map_cons, following, readMoreInOrder, skipSpace_append_cons hblank rfl] at h
      simp only [hskip] at h
      split at h
      · next heq => cases heq
      · next heq => exact absurd (List.cons.inj heq).1 hclose
      · rw [hchars] at h
        obtain ⟨⟨d'', r'⟩, hread, hrest⟩ := exists_of_bind_eq_ok h
        have hr := hfield d isBlank_nil hvalue (endsNumber_append item.behind_isBlank
          (endsNumber_following (c := ']') rfl (items.map Padded.chars) rest)) hread
        cases hr
        exact ih hmore hvalues item.behind_isBlank hrest

/-- An array that is read ends with its bracket. -/
theorem of_readInOrder (hfields : ∀ field ∈ fields, field.TakesWhole)
    (hvalues : ∀ p ∈ items, IsValue p.text)
    (hs : Encloses '[' ']' (items.map Padded.chars) ('[' :: s))
    (h : readInOrder fields d (s ++ rest) = .ok (d', r)) : r = rest := by
  cases items with
  | nil =>
    obtain ⟨blank, hblank, heq⟩ := hs.append_eq_of_nil rest
    rw [List.cons_append, List.cons.injEq] at heq
    rw [heq.2, readInOrder.eq_def, skipSpace_append_cons hblank rfl] at h
    cases h
    rfl
  | cons item items =>
    have heq := hs.append_eq rest
    rw [List.cons_append, List.cons.injEq] at heq
    obtain ⟨hvalue, hvalues⟩ := List.forall_mem_cons.1 hvalues
    obtain ⟨c, t, hskip, hclose, hchars⟩ := exists_skipSpace_item hvalue
      (following ']' (items.map Padded.chars) rest)
    rw [heq.2, readInOrder.eq_def, hskip] at h
    split at h
    · next heq => exact absurd (List.cons.inj heq).1 hclose
    · next heq => cases heq
    · rw [readArrayEnd, ← hskip, skipSpace_skipSpace, hskip] at h
      split at h
      · next heq => exact absurd (List.cons.inj heq).1 hclose
      · cases h
      · cases h
    · rw [hchars] at h
      obtain ⟨⟨d'', r'⟩, hread, hrest⟩ := exists_of_bind_eq_ok h
      obtain ⟨hfield, hmore⟩ := List.forall_mem_cons.1 hfields
      have hr := hfield d isBlank_nil hvalue (endsNumber_append item.behind_isBlank
        (endsNumber_following (c := ']') rfl (items.map Padded.chars) rest)) hread
      cases hr
      exact of_readMoreInOrder hmore hvalues item.behind_isBlank hrest

/-! ## Records -/

/-- An object in which every chosen field stands once and holds what is written for it. -/
def Holds (fields : List (Field δ)) (writes : String → List Char → Prop) (chosen : List String)
    (s : List Char) : Prop :=
  chosen.Nodup ∧ ∃ entries, IsObject entries s ∧ (fieldKeys fields entries).Perm chosen ∧
    ∀ e ∈ entries, e.key ∈ chosen → writes e.key e.value.text

/-- An object in which a field stands twice. -/
def Repeats (fields : List (Field δ)) (s : List Char) : Prop :=
  ∃ entries, IsObject entries s ∧ ¬(fieldKeys fields entries).Nodup

/-- An object without members is read as it is. -/
theorem readRecord_nil {gap : List Char} (hblank : IsBlank blank) (hgap : IsBlank gap) :
    readRecord fields d (blank ++ '\x7b' :: (gap ++ '\x7d' :: rest)) = .ok (d, rest) := by
  rw [readRecord, skipSpace_append_cons hblank rfl]
  simp only [skipSpace_append_cons hgap (c := '\x7d') rfl]

/-- An object with members is read by them, with fuel for all of them. -/
theorem readRecord_cons (fields : List (Field δ)) (d : δ) (hblank : IsBlank blank)
    (hname : IsString m.name.text) (parts : List (List Char)) (rest : List Char) :
    ∃ fuel, parts.length + 1 ≤ fuel ∧
      readRecord fields d (blank ++ '\x7b' :: (m.chars ++ following '\x7d' parts rest)) =
        readBehind fields fuel ([], d, [] ++ following '\x7d' (m.chars :: parts) rest) := by
  obtain ⟨body, hbody⟩ := hname.exists_eq_cons
  have hskip := skipSpace_member hbody (following '\x7d' parts rest)
  refine ⟨(skipSpace (m.chars ++ following '\x7d' parts rest)).length + 1, ?_, ?_⟩
  · have hlt := length_le_length_following '\x7d' parts rest
    rw [hskip, List.length_cons, List.length_append, List.length_append, List.length_cons,
      List.length_append]
    omega
  · rw [readBehind_following_cons isBlank_nil, ← readFieldsWithin_skipSpace, readRecord,
      skipSpace_append_cons hblank rfl]
    simp only [hskip]
    rfl

/-- An object is read into a record, whatever the order of its members. -/
theorem reads_readRecord {writes : String → List Char → Prop} {chosen : List String}
    (honto : Overlay fields onto)
    (hwrites : ∀ {key s}, writes key s → ∀ {field}, fields.find? (·.name = key) = some field →
      ∀ d, Reads (field.read d) s (onto d [key]))
    (h : Holds fields writes chosen s) (d : δ) : Reads (readRecord fields d) s (onto d chosen) := by
  intro blank rest hblank _
  obtain ⟨hnodup, entries, hobject, hperm, hheld⟩ := h
  have hchosen : ∀ name ∈ fieldNames fields, name ∈ entries.map Entry.key ↔ name ∈ chosen := by
    intro name hname
    rw [← hperm.mem_iff, fieldKeys, List.mem_filter, decide_eq_true_eq, and_iff_left hname]
  have hread : ∀ p ∈ entries, ∀ field, fields.find? (·.name = p.key) = some field →
      ∀ d, Reads (field.read d) p.value.text (onto d [p.key]) := by
    intro p hp field hfind
    have hkey := (hchosen p.key (of_find?_eq_some hfind).2).1 (List.mem_map_of_mem hp)
    exact hwrites (hheld p hp hkey) hfind
  rw [← honto.congr hchosen]
  cases entries with
  | nil =>
    obtain ⟨gap, hgap, heq⟩ := hobject.append_eq_of_nil rest
    rw [heq, readRecord_nil hblank hgap, List.map_nil, honto.nil]
  | cons e entries =>
    obtain ⟨fuel, hfuel, hloop⟩ := readRecord_cons fields d hblank
      e.spells.isString (entries.map fun e => e.chars) rest
    rw [List.length_map] at hfuel
    rw [hobject.append_eq rest, hloop]
    refine readBehind_entries honto hread ?_ hfuel isBlank_nil rest
    rw [List.append_nil]
    exact hperm.nodup_iff.2 hnodup

/-- An object that is read has members that are taken, and it is read to its end. -/
theorem of_readRecord_members (hfields : ∀ field ∈ fields, field.TakesWhole)
    (hnames : ∀ p ∈ members, IsString p.name.text) (hvalues : ∀ p ∈ members, IsValue p.value.text)
    (hs : Encloses '\x7b' '\x7d' (members.map Member.chars) s) (hblank : IsBlank blank)
    (h : readRecord fields d (blank ++ (s ++ rest)) = .ok (d', r)) :
    r = rest ∧ AreTaken fields members [] := by
  cases members with
  | nil =>
    obtain ⟨gap, hgap, heq⟩ := hs.append_eq_of_nil rest
    rw [heq, readRecord_nil hblank hgap] at h
    cases h
    exact ⟨rfl, [], rfl, List.nodup_nil, nofun⟩
  | cons m members =>
    obtain ⟨fuel, -, hloop⟩ := readRecord_cons fields d hblank
      (hnames m List.mem_cons_self) (members.map Member.chars) rest
    rw [hs.append_eq rest, hloop] at h
    exact of_readBehind hfields hnames hvalues List.nodup_nil isBlank_nil h

/-- Reading a record takes nothing behind a value. -/
theorem takesWhole_readRecord (hfields : ∀ field ∈ fields, field.TakesWhole) (d : δ) :
    TakesWhole (readRecord fields d) := by
  intro blank s rest d' r hblank hs hrest h
  obtain ⟨c, s, rfl, hspace, -⟩ := hs.exists_eq_cons
  have hread := h
  rw [List.cons_append, readRecord, skipSpace_append_cons hblank hspace] at hread
  split at hread
  · next heq =>
    cases heq
    obtain ⟨items, hitems, hencloses⟩ := hs.exists_items
    exact of_readInOrder hfields hitems hencloses hread
  · next heq =>
    cases heq
    obtain ⟨members, hnames, hvalues, hencloses⟩ := hs.exists_members
    exact (of_readRecord_members hfields hnames hvalues hencloses hblank h).1
  · cases hread

/-- An object that is read has no two members with the name of one field, and the fields take the
values of their members. -/
theorem of_readRecord_object (hfields : ∀ field ∈ fields, field.TakesWhole)
    (hobject : IsObject entries s) (hblank : IsBlank blank)
    (h : readRecord fields d (blank ++ (s ++ rest)) = .ok (d', r)) :
    (fieldKeys fields entries).Nodup ∧
      ∀ p ∈ entries, ∀ field, fields.find? (·.name = p.key) = some field →
        field.Takes p.value.text := by
  have hnames : ∀ p ∈ entries.map Entry.toMember, IsString p.name.text :=
    List.forall_mem_map.2 fun e _ => e.spells.isString
  have hvalues : ∀ p ∈ entries.map Entry.toMember, IsValue p.value.text :=
    List.forall_mem_map.2 fun e _ => e.isValue
  obtain ⟨-, entries', heq, hnodup, htaken⟩ :=
    of_readRecord_members hfields hnames hvalues hobject.encloses hblank h
  rw [List.map_injective_iff.2 Entry.toMember_injective heq, List.append_nil] at hnodup
  rw [List.map_injective_iff.2 Entry.toMember_injective heq] at htaken
  exact ⟨hnodup, htaken⟩

/-- A text is a record if the value in it is read as the record. -/
theorem parseRecord_eq_ok {text : String} {p : Padded} (htext : text.toList = p.chars)
    (h : Reads (readRecord fields d) p.text d') : parseRecord fields d text = .ok d' := by
  have hends : EndsNumber (p.behind ++ []) := endsNumber_append p.behind_isBlank nofun
  have hread := h p.before_isBlank hends
  have hend := skipSpace_append p.behind_isBlank []
  rw [List.append_nil] at hread hend
  rw [parseRecord, htext, Padded.chars, hread]
  change (if (skipSpace p.behind).isEmpty = true then _ else _) = _
  rw [hend]
  rfl

/-- A text that is a record holds a value that is read. -/
theorem of_parseRecord {text : String} {p : Padded} (htext : text.toList = p.chars)
    (h : parseRecord fields d text = .ok d') :
    ∃ r, readRecord fields d (p.before ++ (p.text ++ p.behind)) = .ok (d', r) := by
  rw [parseRecord, htext] at h
  obtain ⟨⟨d'', r⟩, hread, hrest⟩ := exists_of_bind_eq_ok h
  dsimp only at hrest
  split at hrest
  · cases hrest
    exact ⟨r, hread⟩
  · cases hrest

end

end ODataSession.Json
