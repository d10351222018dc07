import ODataSession.Proofs.Text.Octets
import ODataSession.Proofs.Text.Parts
import ODataSession.Session.Credential

/-!
# Cookies put together and taken apart

The credential that `Set-Cookie` values give has the cookies that they carry, and no more
(`Credential.exists_reassembles`): cutting it at its semicolons and trimming gives the cookies back
in their order, and as `Set-Cookie` values the cookies give the same credential. What carries this
is that a cookie is trimmed and has no semicolon in it, and that it is a cookie of itself.
-/

namespace ODataSession

namespace Cookie

/-! ## What a header value carries -/

/-- A text with a name in front of its first equals sign, and not a blank one. -/
def IsNamed (s : List Char) : Prop :=
  ∃ name rest, s = name ++ '=' :: rest ∧ '=' ∉ name ∧ ∃ c ∈ name, Text.isBlank c = false

/-- The cookie that a header value carries: what stands in front of its first semicolon, trimmed, if
the value is readable as text and that is named. -/
def Carries (value : List UInt8) (part : List Char) : Prop :=
  ∃ text, readable? value = some text ∧ IsNamed (text.takeWhile (· ≠ ';')) ∧
    part = Text.trimBy Text.isBlank (text.takeWhile (· ≠ ';'))

/-- The cookies that header values carry, in the order of the values. -/
inductive Collects : List (List UInt8) → List (List Char) → Prop
  | nil : Collects [] []
  | carried : Carries value part → Collects values parts →
      Collects (value :: values) (part :: parts)
  | passed : (∀ part, ¬Carries value part) → Collects values parts →
      Collects (value :: values) parts

variable {value : List UInt8} {values : List (List UInt8)} {text part front back s : List Char}
  {parts : List (List Char)}

/-- What stands in front of the first equals sign tells whether a text is named. -/
theorem isNamed_iff :
    IsNamed s ↔ '=' ∈ s ∧ ∃ c ∈ s.takeWhile (· ≠ '='), Text.isBlank c = false := by
  constructor
  · rintro ⟨name, rest, rfl, hmark, hblank⟩
    rw [(Text.takeWhile_dropWhile_ne_append hmark rest).1]
    exact ⟨List.mem_append_right _ List.mem_cons_self, hblank⟩
  · rintro ⟨hmem, hblank⟩
    obtain ⟨name, rest, rfl, hmark⟩ := List.eq_append_cons_of_mem hmem
    rw [(Text.takeWhile_dropWhile_ne_append hmark rest).1] at hblank
    exact ⟨name, rest, rfl, hmark, hblank⟩

/-- Blank characters around a text do not tell whether it is named. -/
theorem isNamed_append (hfront : ∀ c ∈ front, Text.isBlank c = true)
    (hback : ∀ c ∈ back, Text.isBlank c = true) : IsNamed (front ++ (s ++ back)) ↔ IsNamed s := by
  have hnot : ∀ {blanks : List Char}, (∀ c ∈ blanks, Text.isBlank c = true) → '=' ∉ blanks :=
    fun h hmem => absurd (h '=' hmem) (by decide)
  have hmem : '=' ∈ front ++ (s ++ back) ↔ '=' ∈ s := by
    simp only [List.mem_append, hnot hfront, hnot hback, false_or, or_false]
  rw [isNamed_iff, isNamed_iff, hmem]
  refine and_congr_right fun hs => ?_
  obtain ⟨name, rest, rfl, hmark⟩ := List.eq_append_cons_of_mem hs
  have hwhole : (front ++ (name ++ '=' :: rest ++ back)).takeWhile (· ≠ '=') = front ++ name := by
    have hboth : '=' ∉ front ++ name := by
      rw [List.mem_append, not_or]
      exact ⟨hnot hfront, hmark⟩
    rw [← (Text.takeWhile_dropWhile_ne_append hboth (rest ++ back)).1]
    simp only [List.append_assoc, List.cons_append]
  have hblank : ¬∃ c ∈ front, Text.isBlank c = false := fun ⟨c, hc, hno⟩ =>
    absurd (hfront c hc) (Bool.eq_false_iff.1 hno)
  rw [hwhole, (Text.takeWhile_dropWhile_ne_append hmark rest).1]
  simp only [List.mem_append, or_and_right, exists_or, hblank, false_or]

/-- What trimming takes away does not tell whether a text is named. -/
theorem isNamed_trimBy : IsNamed (Text.trimBy Text.isBlank s) ↔ IsNamed s := by
  obtain ⟨front, back, hs, hfront, hback⟩ := Text.exists_append_trimBy Text.isBlank s
  rw [← isNamed_append hfront hback, ← hs]

/-- The cookie of a text is what stands in front of its first semicolon, trimmed. -/
theorem pair?_eq_some_iff : pair? text = some part ↔ IsNamed (text.takeWhile (· ≠ ';')) ∧
    part = Text.trimBy Text.isBlank (text.takeWhile (· ≠ ';')) := by
  rw [← isNamed_trimBy, isNamed_iff, pair?, Option.ite_none_right_eq_some, Option.some.injEq,
    Bool.and_eq_true, List.contains_iff_mem, Bool.not_eq_true', List.all_eq_false]
  simp only [Bool.not_eq_true]
  exact and_congr_right fun _ => eq_comm

/-- The cookie of a header value is the one that it carries. -/
theorem carries_iff : (readable? value >>= pair?) = some part ↔ Carries value part := by
  simp only [Carries, Option.bind_eq_bind, Option.bind_eq_some_iff, pair?_eq_some_iff]

/-- The cookie that a header value carries comes before those of the values behind it. -/
theorem pairs_cons_of_carries (h : Carries value part) (values : List (List UInt8)) :
    pairs (value :: values) = part :: pairs values :=
  List.filterMap_cons_some (f := fun value => readable? value >>= pair?) (carries_iff.2 h)

/-- A header value that carries no cookie adds none. -/
theorem pairs_cons_of_not_carries (h : ∀ part, ¬Carries value part) (values : List (List UInt8)) :
    pairs (value :: values) = pairs values :=
  List.filterMap_cons_none (f := fun value => readable? value >>= pair?)
    (Option.eq_none_iff_forall_ne_some.2 fun part hpart => h part (carries_iff.1 hpart))

/-- The cookies of header values are those that they carry, in order. -/
theorem collects_iff : Collects values parts ↔ pairs values = parts := by
  constructor
  · intro h
    induction h with
    | nil => rfl
    | carried hvalue _ ih => rw [pairs_cons_of_carries hvalue, ih]
    | passed hvalue _ ih => rw [pairs_cons_of_not_carries hvalue, ih]
  · rintro rfl
    induction values with
    | nil => exact .nil
    | cons value values ih =>
      by_cases hvalue : ∃ part, Carries value part
      · obtain ⟨part, hpart⟩ := hvalue
        rw [pairs_cons_of_carries hpart]
        exact .carried hpart ih
      · rw [not_exists] at hvalue
        rw [pairs_cons_of_not_carries hvalue]
        exact .passed hvalue ih

example : pairs (["id=8f1c; Path=/", "garbage", " =x; y=z", "\tnode = .n4 ;Secure"].map
    fun value => Utf8.encode value.toList) = ["id=8f1c".toList, "node = .n4".toList] := by
  decide

/-- A cookie of header values is one that a value carries. -/
theorem mem_pairs_iff : part ∈ pairs values ↔ ∃ value ∈ values, Carries value part := by
  simp only [pairs, List.mem_filterMap, carries_iff]

/-! ## What is carried carries itself -/

/-- There is no semicolon in a cookie. -/
theorem Carries.not_mem (h : Carries value part) : ';' ∉ part := by
  obtain ⟨text, -, -, rfl⟩ := h
  intro hmem
  have hne := List.mem_takeWhile_imp (Text.mem_of_mem_trimBy hmem)
  simp at hne

/-- There is nothing to trim in a cookie. -/
theorem Carries.trimBy_eq (h : Carries value part) : Text.trimBy Text.isBlank part = part := by
  obtain ⟨text, -, -, rfl⟩ := h
  exact Text.trimBy_trimBy _ _

/-- A readable octet is the only one of its character. -/
theorem utf8EncodeChar_of_isReadable {b : UInt8} (h : isReadable b = true) :
    String.utf8EncodeChar (Char.ofNat b.toNat) = [b] := by
  have hall : ∀ b : UInt8, isReadable b = true →
      String.utf8EncodeChar (Char.ofNat b.toNat) = [b] :=
    Utf8.forall_octet (by decide +kernel)
  exact hall b h

/-- The text of a header value has a character for each octet, and is there if all are readable. -/
theorem readable?_eq_some_iff : readable? value = some text ↔
    value.all isReadable = true ∧ value.map (fun b => Char.ofNat b.toNat) = text := by
  rw [readable?, Option.ite_none_right_eq_some, Option.some.injEq]

/-- A text of characters with readable octets is got back from its octets. -/
theorem readable?_encode {s : List Char}
    (h : ∀ c ∈ s, ∃ b, isReadable b = true ∧ Char.ofNat b.toNat = c) :
    readable? (Utf8.encode s) = some s := by
  rw [readable?_eq_some_iff]
  induction s with
  | nil => exact ⟨rfl, rfl⟩
  | cons c s ih =>
    obtain ⟨⟨b, hb, rfl⟩, hs⟩ := List.forall_mem_cons.1 h
    obtain ⟨hall, hmap⟩ := ih hs
    rw [Utf8.encode, List.flatMap_cons, utf8EncodeChar_of_isReadable hb, ← Utf8.encode,
      List.singleton_append, List.all_cons, List.map_cons, hb, hall, hmap]
    exact ⟨rfl, rfl⟩

/-- The characters of a cookie have readable octets. -/
theorem Carries.exists_isReadable (h : Carries value part) :
    ∀ c ∈ part, ∃ b, isReadable b = true ∧ Char.ofNat b.toNat = c := by
  obtain ⟨text, htext, -, rfl⟩ := h
  intro c hc
  have hmem : c ∈ text := (List.takeWhile_prefix _).subset (Text.mem_of_mem_trimBy hc)
  obtain ⟨hall, rfl⟩ := readable?_eq_some_iff.1 htext
  obtain ⟨b, hb, rfl⟩ := List.mem_map.1 hmem
  exact ⟨b, List.all_eq_true.1 hall b hb, rfl⟩

/-- A text that is carried by itself. -/
def IsCookie (part : List Char) : Prop :=
  Carries (Utf8.encode part) part

/-- A text that any value carries is carried by itself. -/
theorem Carries.isCookie (h : Carries value part) : IsCookie part := by
  have hreadable : readable? (Utf8.encode part) = some part := readable?_encode h.exists_isReadable
  have hfront : part.takeWhile (· ≠ ';') = part :=
    List.takeWhile_eq_self_iff.2 fun c hc => decide_eq_true (ne_of_mem_of_not_mem hc h.not_mem)
  refine ⟨part, hreadable, ?_, ?_⟩
  · obtain ⟨text, -, hnamed, rfl⟩ := h
    rw [hfront]
    exact isNamed_trimBy.2 hnamed
  · rw [hfront, h.trimBy_eq]

/-- The cookies of header values are carried by themselves. -/
theorem isCookie_of_mem_pairs (h : part ∈ pairs values) : IsCookie part := by
  obtain ⟨value, -, hvalue⟩ := mem_pairs_iff.1 h
  exact hvalue.isCookie

/-- Cookies are their own cookies. -/
theorem pairs_encode (h : ∀ part ∈ parts, IsCookie part) :
    pairs (parts.map Utf8.encode) = parts := by
  induction parts with
  | nil => rfl
  | cons part parts ih =>
    obtain ⟨hpart, hparts⟩ := List.forall_mem_cons.1 h
    rw [List.map_cons, pairs_cons_of_carries hpart, ih hparts]

/-! ## Joining and cutting -/

/-- A semicolon and a blank between texts are a semicolon, and a blank in front of every text but
the first. -/
theorem intercalate_semicolon_blank (part : List Char) (parts : List (List Char)) :
    [';', ' '].intercalate (part :: parts) = [';'].intercalate (part :: parts.map (' ' :: ·)) := by
  induction parts generalizing part with
  | nil => rfl
  | cons part' parts ih =>
    rw [List.intercalate_cons_cons, ih, List.map_cons, List.intercalate_cons_cons,
      List.intercalate_cons_cons_left, List.append_assoc, List.append_assoc]
    rfl

/-- Cookies are got back from what they are joined to. -/
theorem splitOn_intercalate_trimBy (hne : parts ≠ []) (h : ∀ part ∈ parts, IsCookie part) :
    (Text.splitOn (· = ';') ([';', ' '].intercalate parts)).map (Text.trimBy Text.isBlank) =
      parts := by
  obtain ⟨part, parts, rfl⟩ := List.exists_cons_of_ne_nil hne
  obtain ⟨hpart, hparts⟩ := List.forall_mem_cons.1 h
  have hmark : ∀ padded ∈ part :: parts.map (' ' :: ·), ';' ∉ padded :=
    List.forall_mem_cons.2 ⟨hpart.not_mem, List.forall_mem_map.2 fun part' hpart' =>
      List.not_mem_cons_of_ne_of_not_mem (by decide) (hparts part' hpart').not_mem⟩
  have htrim : (parts.map (' ' :: ·)).map (Text.trimBy Text.isBlank) = parts := by
    rw [List.map_map]
    refine (List.map_congr_left fun part' hpart' => ?_).trans (List.map_id parts)
    rw [Function.comp_apply, Text.trimBy_cons_of_pos (by decide), (hparts part' hpart').trimBy_eq,
      id_eq]
  rw [intercalate_semicolon_blank, Text.splitOn_intercalate (List.cons_ne_nil _ _) hmark,
    List.map_cons, hpart.trimBy_eq, htrim]

end Cookie

/-! ## The credential -/

namespace Credential

variable {values : List (List UInt8)} {parts : List (List Char)} {c : Credential}

/-- The credential of header values is the cookies that they carry, joined. -/
theorem ofSetCookie?_eq_some_iff : ofSetCookie? values = some c ↔
    Cookie.pairs values ≠ [] ∧
      c.cookie.toList = [';', ' '].intercalate (Cookie.pairs values) := by
  obtain ⟨cookie⟩ := c
  unfold ofSetCookie?
  split
  · next hnil => exact ⟨nofun, fun h => absurd hnil h.1⟩
  · next hne =>
    rw [Option.some.injEq, mk.injEq, eq_comm, ← String.toList_inj, String.toList_ofList]
    exact (and_iff_right hne).symm

/-- There is a credential exactly if a value carries a cookie. -/
theorem isSome_ofSetCookie?_iff : (ofSetCookie? values).isSome ↔
    ∃ value ∈ values, ∃ part, Cookie.Carries value part := by
  rw [Option.isSome_iff_exists]
  constructor
  · rintro ⟨c, hc⟩
    obtain ⟨part, hpart⟩ := List.exists_mem_of_ne_nil _ (ofSetCookie?_eq_some_iff.1 hc).1
    obtain ⟨value, hmem, hvalue⟩ := Cookie.mem_pairs_iff.1 hpart
    exact ⟨value, hmem, part, hvalue⟩
  · rintro ⟨value, hmem, part, hvalue⟩
    have hne := List.ne_nil_of_mem (Cookie.mem_pairs_iff.2 ⟨value, hmem, hvalue⟩)
    exact ⟨⟨String.ofList _⟩, ofSetCookie?_eq_some_iff.2 ⟨hne, String.toList_ofList⟩⟩

/-- The cookies of header values, and what a credential that is made of nothing else is like. -/
structure Reassembles (values : List (List UInt8)) (parts : List (List Char)) : Prop where
  /-- The cookies are those that the values carry, in the order of the values. -/
  collects_iff : ∀ parts', Cookie.Collects values parts' ↔ parts' = parts
  /-- There is a credential exactly if a value carries a cookie. -/
  isSome_iff : (ofSetCookie? values).isSome ↔ ∃ value ∈ values, ∃ part, Cookie.Carries value part
  /-- Cutting the credential at its semicolons and trimming gives the cookies. -/
  split_eq : ∀ c, ofSetCookie? values = some c →
    (Text.splitOn (· = ';') c.cookie.toList).map (Text.trimBy Text.isBlank) = parts
  /-- As `Set-Cookie` values the cookies give the credential again. -/
  again : ∀ c, ofSetCookie? values = some c → ofSetCookie? (parts.map Utf8.encode) = some c

/-- The credential of any header values is made of the cookies that they carry. -/
theorem exists_reassembles (values : List (List UInt8)) : ∃ parts, Reassembles values parts := by
  have hcookies : ∀ part ∈ Cookie.pairs values, Cookie.IsCookie part := fun _ =>
    Cookie.isCookie_of_mem_pairs
  refine ⟨Cookie.pairs values, fun parts => ?_, isSome_ofSetCookie?_iff, fun c hc => ?_,
    fun c hc => ?_⟩
  · rw [Cookie.collects_iff, eq_comm]
  · obtain ⟨hne, hcookie⟩ := ofSetCookie?_eq_some_iff.1 hc
    rw [hcookie, Cookie.splitOn_intercalate_trimBy hne hcookies]
  · rw [ofSetCookie?_eq_some_iff] at hc ⊢
    rwa [Cookie.pairs_encode hcookies]

end Credential

end ODataSession
