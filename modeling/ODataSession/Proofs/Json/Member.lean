import ODataSession.Proofs.Json.Scalar

/-!
# Reading members

The members of an object, each with the text that its name spells (`Json.Entry`), and the loop that
reads them into a record. A member that a field is named after lays its value over the record
(`Json.Overlay`), and the other ones are skipped (`Json.readBehind_entries`). Members that are read
have names that spell texts, no two of them the name of one field, and hold values that their fields
take (`Json.of_readBehind`). This holds whatever the values are, if a field that takes a value takes
nothing behind it, so that the next member is the one that was written.
-/

namespace ODataSession.Json

/-! ## Objects -/

/-- A member with the text that its name spells. -/
structure Entry extends Member where
  key : String
  spells : Spells key name.text
  isValue : IsValue value.text

/-- An object with its members. -/
def IsObject (entries : List Entry) (s : List Char) : Prop :=
  Encloses '\x7b' '\x7d' (entries.map fun e => e.chars) s

/-- The members of an object stand in it. -/
theorem IsObject.encloses {entries : List Entry} {s : List Char} (h : IsObject entries s) :
    Encloses '\x7b' '\x7d' ((entries.map Entry.toMember).map Member.chars) s := by
  rw [List.map_map]
  exact h

/-- A string spells one text at most. -/
theorem Spells.unique {t t' : String} {s : List Char} (h : Spells t s) (h' : Spells t' s) :
    t = t' := by
  obtain ⟨body, rfl⟩ := h.exists_eq_cons
  have hread := h.scanString []
  rw [h'.scanString []] at hread
  exact String.toList_injective (Prod.mk.inj (Except.ok.inj hread)).1.symm

/-- A member has one name. -/
theorem Entry.toMember_injective : Function.Injective Entry.toMember := by
  rintro ⟨m, key, hkey, _⟩ ⟨m', key', hkey', _⟩ rfl
  cases hkey.unique hkey'
  rfl

section
variable {δ : Type} (fields : List (Field δ))

/-! ## Names -/

/-- The names of fields. -/
def fieldNames : List String :=
  fields.map (·.name)

/-- The names of members that fields are named after, in their order. -/
def fieldKeys (entries : List Entry) : List String :=
  (entries.map Entry.key).filter (· ∈ fieldNames fields)

/-- The fields that have been seen with a member. -/
def noted (key : String) (seen : List String) : List String :=
  if key ∈ fieldNames fields then key :: seen else seen

/-- Laying the values of some fields onto a record: one after the other is all at once, and no more
counts than which fields they are. -/
structure Overlay (onto : δ → List String → δ) : Prop where
  nil (d : δ) : onto d [] = d
  cons (d : δ) (key : String) (keys : List String) : onto (onto d [key]) keys = onto d (key :: keys)
  congr {keys keys' : List String} (h : ∀ name ∈ fieldNames fields, name ∈ keys ↔ name ∈ keys')
    (d : δ) : onto d keys = onto d keys'

variable {fields} {onto : δ → List String → δ} {key : String} {field : Field δ}

/-- A name finds no field exactly if none has it. -/
theorem find?_eq_none_iff : fields.find? (·.name = key) = none ↔ key ∉ fieldNames fields := by
  rw [List.find?_eq_none, fieldNames, List.mem_map]
  simp only [decide_eq_true_eq, not_exists, not_and]

/-- A field that is found has the name. -/
theorem of_find?_eq_some (h : fields.find? (·.name = key) = some field) :
    field ∈ fields ∧ key ∈ fieldNames fields := by
  have hfield := List.mem_of_find?_eq_some h
  have hname := List.find?_some h
  exact ⟨hfield, List.mem_map.2 ⟨field, hfield, of_decide_eq_true hname⟩⟩

/-- The value of a member that no field is named after makes no difference. -/
theorem Overlay.unknown (h : Overlay fields onto) (hkey : key ∉ fieldNames fields) (d : δ) :
    onto d [key] = d := by
  have hsame : ∀ name ∈ fieldNames fields, name ∈ [key] ↔ name ∈ [] := by
    intro name hname
    rw [List.mem_singleton]
    exact ⟨fun heq => absurd (heq ▸ hname) hkey, nofun⟩
  rw [h.congr hsame, h.nil]

/-- A member repeats a field if its name has been noted before. -/
theorem nodup_fieldKeys_cons (e : Entry) (entries : List Entry) (seen : List String) :
    (fieldKeys fields (e :: entries) ++ seen).Nodup ↔
      (fieldKeys fields entries ++ noted fields e.key seen).Nodup := by
  rw [fieldKeys, fieldKeys, noted, List.map_cons]
  split
  · next hkey =>
    rw [List.filter_cons_of_pos (by simpa using hkey)]
    exact List.perm_middle.nodup_iff.symm
  · next hkey => rw [List.filter_cons_of_neg (by simpa using hkey)]

/-! ## Members -/

variable {d d' : δ} {seen seen' : List String} {s rest r blank part : List Char}
  {parts : List (List Char)} {fuel : Nat} {m : Member} {members : List Member} {e : Entry}
  {entries : List Entry}

/-- A member is read by its field. -/
theorem readMember_of_some (hfind : fields.find? (·.name = key) = some field) (hnew : key ∉ seen)
    (hblank : IsBlank blank) (hread : field.read d s = .ok (d', rest)) :
    readMember fields key seen d (blank ++ ':' :: s) = .ok (key :: seen, d', rest) := by
  rw [readMember, hfind]
  simp only [if_neg hnew, scanColon, skipSpace_append_cons hblank (c := ':') rfl]
  change (field.read d s >>= _) = _
  rw [hread]
  rfl

/-- A member that no field is named after is skipped. -/
theorem readMember_of_none {v : Json} (hfind : fields.find? (·.name = key) = none)
    (hblank : IsBlank blank) (hread : readValue .lenient s = .ok (v, rest)) :
    readMember fields key seen d (blank ++ ':' :: s) = .ok (seen, d, rest) := by
  rw [readMember, hfind]
  simp only [scanColon, skipSpace_append_cons hblank (c := ':') rfl]
  change (grammar (readValue .lenient s) >>= _) = _
  rw [hread]
  rfl

/-- A member that is read has no field that has been seen. -/
theorem of_readMember (hblank : IsBlank blank)
    (h : readMember fields key seen d (blank ++ ':' :: s) = .ok (seen', d', r)) :
    seen' = noted fields key seen ∧
      ((∃ field, fields.find? (·.name = key) = some field ∧ key ∉ seen ∧
          field.read d s = .ok (d', r)) ∨
        fields.find? (·.name = key) = none ∧ ∃ v, readValue .lenient s = .ok (v, r)) := by
  rw [readMember] at h
  simp only [scanColon, skipSpace_append_cons hblank (c := ':') rfl] at h
  split at h
  · next field hfind =>
    split at h
    · cases h
    · next hnew =>
      change (field.read d s >>= _) = _ at h
      obtain ⟨⟨d'', r'⟩, hread, heq⟩ := exists_of_bind_eq_ok h
      cases heq
      exact ⟨(if_pos (of_find?_eq_some hfind).2).symm, .inl ⟨field, hfind, hnew, hread⟩⟩
  · next hfind =>
    change (grammar (readValue .lenient s) >>= _) = _ at h
    obtain ⟨⟨v, r'⟩, hread, heq⟩ := exists_of_bind_eq_ok h
    cases heq
    exact ⟨(if_neg (find?_eq_none_iff.1 hfind)).symm, .inr ⟨hfind, v, of_grammar_eq_ok hread⟩⟩

/-- What is read behind a member. -/
def readBehind (fields : List (Field δ)) (fuel : Nat) :
    List String × δ × List Char → Except RecordFault (δ × List Char)
  | (seen, d, rest) =>
    match skipSpace rest with
    | ',' :: rest => readFieldsWithin fields fuel seen d rest
    | '\x7d' :: rest => return (d, rest)
    | [] => throw truncated
    | _ => throw malformed

/-- Behind the last member the object ends. -/
theorem readBehind_following_nil (hblank : IsBlank blank) :
    readBehind fields fuel (seen, d, blank ++ following '\x7d' [] rest) = .ok (d, rest) := by
  rw [following, readBehind, skipSpace_append_cons hblank rfl]
  rfl

/-- Behind another member the next one is read. -/
theorem readBehind_following_cons (hblank : IsBlank blank) :
    readBehind fields fuel (seen, d, blank ++ following '\x7d' (part :: parts) rest) =
      readFieldsWithin fields fuel seen d (part ++ following '\x7d' parts rest) := by
  rw [following, readBehind, skipSpace_append_cons hblank rfl]
  rfl

/-- Blanks in front of members make no difference. -/
theorem readFieldsWithin_skipSpace (fuel : Nat) (seen : List String) (d : δ) (s : List Char) :
    readFieldsWithin fields fuel seen d (skipSpace s) = readFieldsWithin fields fuel seen d s := by
  cases fuel with
  | zero => rw [readFieldsWithin, readFieldsWithin]
  | succ fuel => rw [readFieldsWithin, skipSpace_skipSpace, readFieldsWithin]

/-- A member is read by its name, and then what is behind it. -/
theorem readFieldsWithin_member (hname : Spells key m.name.text) (rest : List Char) :
    readFieldsWithin fields (fuel + 1) seen d (m.chars ++ rest) =
      readMember fields key seen d (m.name.behind ++ ':' :: (m.value.chars ++ rest)) >>=
        readBehind fields fuel := by
  obtain ⟨body, hbody⟩ := hname.exists_eq_cons
  rw [hbody] at hname
  rw [readFieldsWithin, skipSpace_member hbody]
  change (grammar (scanString .exact (body ++ _)) >>= _) = _
  rw [hname.scanString]
  change (readMember fields (String.ofList key.toList) seen d _ >>= _) = _
  rw [String.ofList_toList]
  rfl

/-- A member is read into the record. -/
theorem readMember_entry (honto : Overlay fields onto)
    (hread : ∀ field, fields.find? (·.name = e.key) = some field →
      Reads (field.read d) e.value.text (onto d [e.key]))
    (hnew : (noted fields e.key seen).Nodup) (hrest : EndsNumber rest) :
    readMember fields e.key seen d (e.name.behind ++ ':' :: (e.value.chars ++ rest)) =
      .ok (noted fields e.key seen, onto d [e.key], e.value.behind ++ rest) := by
  have hbehind := endsNumber_append e.value.behind_isBlank hrest
  rw [e.value.chars_append]
  cases hfind : fields.find? (·.name = e.key) with
  | some field =>
    have hnoted : noted fields e.key seen = e.key :: seen := if_pos (of_find?_eq_some hfind).2
    rw [hnoted] at hnew ⊢
    exact readMember_of_some hfind (List.nodup_cons.1 hnew).1 e.name.behind_isBlank
      (hread field hfind e.value.before_isBlank hbehind)
  | none =>
    have hkey := find?_eq_none_iff.1 hfind
    obtain ⟨v, hv⟩ := e.isValue.exists_readValue e.value.before_isBlank hbehind
    rw [noted, if_neg hkey, honto.unknown hkey]
    exact readMember_of_none hfind e.name.behind_isBlank hv

/-- Members are read into the record one after the other. -/
theorem readBehind_entries (honto : Overlay fields onto)
    (hread : ∀ p ∈ entries, ∀ field, fields.find? (·.name = p.key) = some field →
      ∀ d, Reads (field.read d) p.value.text (onto d [p.key]))
    (hnodup : (fieldKeys fields entries ++ seen).Nodup) (hfuel : entries.length ≤ fuel)
    (hblank : IsBlank blank) (rest : List Char) :
    readBehind fields fuel
      (seen, d, blank ++ following '\x7d' (entries.map fun e => e.chars) rest) =
        .ok (onto d (entries.map Entry.key), rest) := by
  -- the fields that are still to come differ from the ones that have been seen, which a member
  -- that is read moves from the former to the latter
  induction entries generalizing fuel seen d blank with
  | nil => rw [List.map_nil, List.map_nil, honto.nil, readBehind_following_nil hblank]
  | cons e entries ih =>
    obtain ⟨fuel, rfl⟩ := Nat.exists_eq_succ_of_ne_zero (Nat.ne_of_gt (Nat.zero_lt_of_lt hfuel))
    rw [nodup_fieldKeys_cons] at hnodup
    obtain ⟨hfield, hmore⟩ := List.forall_mem_cons.1 hread
    have hmember := readMember_entry honto (fun field hfind => hfield field hfind d)
      (List.nodup_append.1 hnodup).2.1
      (endsNumber_following (c := '\x7d') rfl (entries.map fun e => e.chars) rest)
    have hbehind := ih (d := onto d [e.key]) hmore hnodup (Nat.le_of_succ_le_succ hfuel)
      e.value.behind_isBlank
    rw [honto.cons] at hbehind
    rw [List.map_cons, readBehind_following_cons hblank, readFieldsWithin_member e.spells, hmember]
    exact hbehind

/-! ## Members that are read -/

/-- A field takes a value somewhere. -/
def Field.Takes (field : Field δ) (s : List Char) : Prop :=
  ∃ d blank rest result, IsBlank blank ∧ EndsNumber rest ∧
    field.read d (blank ++ (s ++ rest)) = .ok result

/-- Members that are read have names that spell texts, no two of them the name of one field, and
the fields take their values. -/
def AreTaken (fields : List (Field δ)) (members : List Member) (seen : List String) : Prop :=
  ∃ entries, entries.map Entry.toMember = members ∧ (fieldKeys fields entries ++ seen).Nodup ∧
    ∀ e ∈ entries, ∀ field, fields.find? (·.name = e.key) = some field →
      field.Takes e.value.text

/-- A member that is read has a name that spells a text. -/
theorem of_readFieldsWithin_member {x : δ × List Char} (hname : IsString m.name.text)
    (h : readFieldsWithin fields fuel seen d (m.chars ++ rest) = .ok x) :
    ∃ key fuel' result, Spells key m.name.text ∧
      readMember fields key seen d (m.name.behind ++ ':' :: (m.value.chars ++ rest)) = .ok result ∧
      readBehind fields fuel' result = .ok x := by
  cases fuel with
  | zero => cases h
  | succ fuel =>
    obtain ⟨body, hbody⟩ := hname.exists_eq_cons
    -- the name is read first, and only then the step is known to be that of a member
    have hread := h
    rw [readFieldsWithin, skipSpace_member hbody] at hread
    obtain ⟨⟨key, r⟩, hscan, -⟩ := exists_of_bind_eq_ok hread
    rw [hbody] at hname
    have hspells := (hname.spells_of_scanString (of_grammar_eq_ok hscan)).2
    rw [← hbody] at hspells
    rw [readFieldsWithin_member hspells] at h
    obtain ⟨result, hmember, hbehind⟩ := exists_of_bind_eq_ok h
    exact ⟨_, fuel, result, hspells, hmember, hbehind⟩

/-- A member that is read leaves what is behind its value. -/
theorem of_readMember_value (hfields : ∀ field ∈ fields, field.TakesWhole)
    (hvalue : IsValue m.value.text) (hseen : seen.Nodup) (hrest : EndsNumber rest)
    (h : readMember fields key seen d (m.name.behind ++ ':' :: (m.value.chars ++ rest)) =
      .ok (seen', d', r)) :
    r = m.value.behind ++ rest ∧ seen' = noted fields key seen ∧ seen'.Nodup ∧
      ∀ field, fields.find? (·.name = key) = some field → field.Takes m.value.text := by
  have hbehind := endsNumber_append m.value.behind_isBlank hrest
  obtain ⟨hnoted, ⟨field, hfind, hnew, hread⟩ | ⟨hfind, v, hread⟩⟩ :=
    of_readMember m.name.behind_isBlank h
  · obtain ⟨hfield, hkey⟩ := of_find?_eq_some hfind
    rw [m.value.chars_append] at hread
    have hr := hfields field hfield d m.value.before_isBlank hvalue hbehind hread
    refine ⟨hr, hnoted, ?_, fun field' hfind' => ?_⟩
    · rw [hnoted, noted, if_pos hkey]
      exact List.nodup_cons.2 ⟨hnew, hseen⟩
    · cases hfind.symm.trans hfind'
      exact ⟨d, m.value.before, _, _, m.value.before_isBlank, hbehind, hread⟩
  · obtain ⟨v', hv'⟩ := hvalue.exists_readValue m.value.before_isBlank hbehind
    rw [m.value.chars_append, hv'] at hread
    cases hread
    refine ⟨rfl, hnoted, ?_, fun field' hfind' => ?_⟩
    · rwa [hnoted, noted, if_neg (find?_eq_none_iff.1 hfind)]
    · cases hfind.symm.trans hfind'

/-- A member that is read is an entry, and what is behind it is read next. -/
theorem of_readFieldsWithin {x : δ × List Char} (hfields : ∀ field ∈ fields, field.TakesWhole)
    (hname : IsString m.name.text) (hvalue : IsValue m.value.text) (hseen : seen.Nodup)
    (hrest : EndsNumber rest) (h : readFieldsWithin fields fuel seen d (m.chars ++ rest) = .ok x) :
    ∃ e fuel' d', Entry.toMember e = m ∧ (noted fields e.key seen).Nodup ∧
      (∀ field, fields.find? (·.name = e.key) = some field → field.Takes e.value.text) ∧
      readBehind fields fuel' (noted fields e.key seen, d', m.value.behind ++ rest) = .ok x := by
  obtain ⟨key, fuel', ⟨seen', d', r⟩, hspells, hmember, hbehind⟩ :=
    of_readFieldsWithin_member hname h
  obtain ⟨rfl, rfl, hnodup, htakes⟩ := of_readMember_value hfields hvalue hseen hrest hmember
  exact ⟨⟨m, key, hspells, hvalue⟩, fuel', d', rfl, hnodup, htakes, hbehind⟩

/-- Members that are read end with their object, and no two of them have the name of one field. -/
theorem of_readBehind (hfields : ∀ field ∈ fields, field.TakesWhole)
    (hnames : ∀ p ∈ members, IsString p.name.text) (hvalues : ∀ p ∈ members, IsValue p.value.text)
    (hseen : seen.Nodup) (hblank : IsBlank blank)
    (h : readBehind fields fuel
      (seen, d, blank ++ following '\x7d' (members.map Member.chars) rest) = .ok (d', r)) :
    r = rest ∧ AreTaken fields members seen := by
  induction members generalizing fuel seen d blank with
  | nil =>
    rw [List.map_nil, readBehind_following_nil hblank] at h
    cases h
    exact ⟨rfl, [], rfl, hseen, nofun⟩
  | cons m members ih =>
    obtain ⟨hname, hmoreNames⟩ := List.forall_mem_cons.1 hnames
    obtain ⟨hvalue, hmoreValues⟩ := List.forall_mem_cons.1 hvalues
    rw [List.map_cons, readBehind_following_cons hblank] at h
    obtain ⟨e, fuel', d'', rfl, hnodup, htakes, hbehind⟩ := of_readFieldsWithin hfields hname hvalue
      hseen (endsNumber_following (c := '\x7d') rfl (members.map Member.chars) rest) h
    obtain ⟨hr, entries, rfl, hmore, htaken⟩ :=
      ih hmoreNames hmoreValues hnodup e.value.behind_isBlank hbehind
    exact ⟨hr, e :: entries, rfl, (nodup_fieldKeys_cons e entries seen).2 hmore,
      List.forall_mem_cons.2 ⟨htakes, htaken⟩⟩

end

end ODataSession.Json
