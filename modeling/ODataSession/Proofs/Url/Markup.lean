import Mathlib.Data.List.Infix
import Mathlib.Data.List.TakeWhile
import ODataSession.Proofs.Url.Pieces
import ODataSession.Text.Quoted
import ODataSession.Url.Reader

/-!
# Markup in paths

Some patterns of characters mean more to a URL than the characters: the marks of a query and of a
fragment, a backslash, the tabs and newlines that are dropped, an escape, and a piece of dots
between slashes. A text without these is inert. Of an inert text everything is left as a path, and
of other texts something is lost or taken for something else (`Url.isInert_iff`). Doubling the
quotes of a text neither adds nor removes markup (`Url.infix_double_iff`).
-/

namespace ODataSession

namespace Url

/-! ## Markup -/

/-- The characters that are markup by themselves. -/
def singleMarks : List Char :=
  ['?', '#', '\\', '\t', '\n', '\r']

/-- The patterns that a path takes for more than their characters. -/
inductive Markup : List Char → Prop
  | single {c : Char} (h : c ∈ singleMarks) : Markup [c]
  | escape {a b : Char} (ha : Percent.IsHexDigit a) (hb : Percent.IsHexDigit b) : Markup ['%', a, b]
  | dot : Markup ['/', '.', '/']
  | dots : Markup ['/', '.', '.', '/']

-- By the number of characters: each pattern is compared only with texts of its length.
instance : DecidablePred Markup
  | [] => .isFalse nofun
  | [c] => decidable_of_iff (c ∈ singleMarks) ⟨.single, fun | .single h => h⟩
  | [_, _] => .isFalse nofun
  | [m, a, b] =>
    decidable_of_iff ((m = '%' ∧ Percent.IsHexDigit a ∧ Percent.IsHexDigit b) ∨
      [m, a, b] = ['/', '.', '/']) <| by
    constructor
    · rintro (⟨rfl, ha, hb⟩ | h)
      · exact .escape ha hb
      · exact h ▸ .dot
    · rintro (_ | ⟨ha, hb⟩ | _)
      · exact .inl ⟨rfl, ha, hb⟩
      · exact .inr rfl
  | m :: a :: b :: c :: rest =>
    decidable_of_iff (m :: a :: b :: c :: rest = ['/', '.', '.', '/']) <| by
    constructor
    · exact fun h => h ▸ .dots
    · rintro (_ | _ | _ | _)
      rfl

/-- A text without markup. -/
def IsInert (s : List Char) : Prop :=
  ∀ p, Markup p → ¬p <:+: s

instance : DecidablePred IsInert := fun s =>
  decidable_of_iff (∀ t ∈ s.tails, ∀ p ∈ t.inits, ¬Markup p) <| by
    simp only [List.mem_tails, List.mem_inits, IsInert, List.infix_iff_prefix_suffix]
    constructor
    · rintro h p hp ⟨t, hpt, hts⟩
      exact h t hts p hpt hp
    · exact fun h t hts p hpt hp => h p hp ⟨t, hpt, hts⟩

/-- The characters that markup begins with. -/
def markupStarts : List Char :=
  singleMarks ++ ['%', '/']

/-- The characters that no markup begins with. -/
def isPlainChar (c : Char) : Bool :=
  c ∉ markupStarts

/-- The characters of a class are plain if no markup begins with one of them. -/
theorem isPlainChar_of_any {p : Char → Bool} (hp : markupStarts.any p = false) {c : Char}
    (h : p c = true) : isPlainChar c = true :=
  decide_eq_true fun hmem => List.any_eq_false.1 hp c hmem h

/-- Markup begins with a character that is not plain. -/
theorem Markup.exists_eq_cons {p : List Char} (h : Markup p) :
    ∃ c rest, p = c :: rest ∧ isPlainChar c = false := by
  cases h with
  | @single c h =>
    have hstart : c ∈ markupStarts := List.mem_append_left _ h
    exact ⟨c, [], rfl, decide_eq_false (not_not_intro hstart)⟩
  | escape => exact ⟨_, _, rfl, rfl⟩
  | dot => exact ⟨_, _, rfl, rfl⟩
  | dots => exact ⟨_, _, rfl, rfl⟩

/-- A text of plain characters is inert. -/
theorem isInert_of_forall {s : List Char} (h : ∀ c ∈ s, isPlainChar c = true) : IsInert s := by
  intro p hp hpart
  obtain ⟨c, rest, rfl, hc⟩ := hp.exists_eq_cons
  have hplain := h c (hpart.subset (List.mem_cons_self ..))
  rw [hc] at hplain
  cases hplain

/-! ## Doubled quotes -/

/-- There is no quote in markup. -/
theorem Markup.quote_not_mem {p : List Char} (h : Markup p) : Quoted.quote ∉ p := by
  cases h with
  | single h =>
    rw [List.mem_singleton]
    rintro rfl
    revert h
    decide
  | escape ha hb =>
    have hpercent : Quoted.quote ≠ '%' := by decide
    exact List.not_mem_cons_of_ne_of_not_mem hpercent (Percent.not_mem_digits (by decide) ha hb)
  | dot => decide
  | dots => decide

/-- What has no quote is in front of a text if it is in front of the text with quotes doubled. -/
theorem prefix_double_iff {p s : List Char} (hp : Quoted.quote ∉ p) :
    p <+: Quoted.double s ↔ p <+: s := by
  induction s generalizing p with
  | nil => rfl
  | cons c s ih =>
    cases p with
    | nil => simp
    | cons d p =>
      obtain ⟨hd, hp⟩ := not_or.1 (List.mem_cons.not.1 hp)
      rw [Quoted.double]
      split
      · next hc =>
        simp only [List.cons_prefix_cons, hc, Ne.symm hd, false_and]
      · rw [List.cons_prefix_cons, List.cons_prefix_cons, ih hp]

/-- What has no quote is a part of a text if it is a part of the text with quotes doubled. -/
theorem infix_double_iff {p s : List Char} (hp : Quoted.quote ∉ p) :
    p <:+: Quoted.double s ↔ p <:+: s := by
  induction s with
  | nil => rfl
  | cons c s ih =>
    rw [Quoted.double]
    split
    · next hc =>
      rw [Text.infix_cons_iff_of_not_mem hp, Text.infix_cons_iff_of_not_mem hp, ih,
        Text.infix_cons_iff_of_not_mem (hc ▸ hp)]
    · next hc =>
      have hfirst : p <+: c :: Quoted.double s ↔ p <+: c :: s := by
        have hwhole := prefix_double_iff (s := c :: s) hp
        rwa [Quoted.double, if_neg hc] at hwhole
      rw [List.infix_cons_iff, List.infix_cons_iff, hfirst, ih]

/-! ## What is left of a text -/

/-- A text without the tabs and newlines that a URL does not see. -/
def seen (text : List Char) : List Char :=
  text.filter (!isTabOrNewline ·)

/-- What is seen is a part of the text. -/
theorem seen_sublist (text : List Char) : (seen text).Sublist text :=
  List.filter_sublist

/-- An inert text has no character that is markup by itself. -/
theorem IsInert.not_mem {text : List Char} (h : IsInert text) {c : Char} (hc : c ∈ singleMarks) :
    c ∉ text := by
  intro hmem
  obtain ⟨s, t, rfl⟩ := List.append_of_mem hmem
  exact h [c] (.single hc) ⟨s, t, by simp⟩

/-- All of an inert text is left as a path. -/
theorem IsInert.pathText_seen {text : List Char} (h : IsInert text) :
    pathText (seen text) = text := by
  have hkept : ∀ c ∈ text, isTabOrNewline c = false ∧ endsPath c = false := by
    intro c hc
    have hno : ∀ d ∈ singleMarks, c ≠ d := by
      rintro d hd rfl
      exact h.not_mem hd hc
    simp only [singleMarks, List.forall_mem_cons] at hno
    simp [isTabOrNewline, endsPath, hno]
  have hseen : seen text = text := List.filter_eq_self.2 fun c hc => by simp [(hkept c hc).1]
  rw [hseen]
  exact List.takeWhile_eq_self_iff.2 fun c hc => by simp [(hkept c hc).2]

/-- Only a slash and a backslash separate the segments of a special scheme. -/
theorem eq_slash_of_isSlash {c : Char} (h : isSlash .special c = true) (hc : c ≠ '\\') :
    c = '/' := by
  simpa [isSlash_special, hc] using h

/-- An inert text has no separator of segments but slashes. -/
theorem IsInert.slashed_eq {text : List Char} (h : IsInert text) : slashed text = text := by
  refine (List.map_congr_left fun c hc => ?_).trans (List.map_id text)
  split
  · next hslash =>
    refine (eq_slash_of_isSlash hslash ?_).symm
    rintro rfl
    exact h.not_mem (by decide) hc
  · rfl

/-- A piece that is neither in front nor at the end stands between two slashes. -/
theorem slashes_around_piece {text piece : List Char} (hpiece : piece ∈ piecesOf .special text)
    (hbackslash : '\\' ∉ text) (hfirst : ¬piece <+: text) (hlast : ¬piece <:+ text) :
    '/' :: (piece ++ ['/']) <:+: text := by
  obtain ⟨before, behind, rfl, hbefore, hbehind⟩ := Text.exists_eq_of_mem_splitOn hpiece
  cases before using List.reverseRecOn with
  | nil => exact absurd (List.prefix_append piece behind) hfirst
  | append_singleton before c =>
    cases behind with
    | nil => exact absurd ⟨before ++ [c], by simp⟩ hlast
    | cons d behind =>
      have hc : c = '/' := by
        refine eq_slash_of_isSlash (hbefore c (by simp)) ?_
        rintro rfl
        simp at hbackslash
      have hd : d = '/' := by
        refine eq_slash_of_isSlash (hbehind d rfl) ?_
        rintro rfl
        simp at hbackslash
      exact ⟨before, behind, by simp [hc, hd]⟩

section
variable {text : List Char}

/-- The pieces of an inert text that neither begins nor ends with a dot are no dot pieces. -/
theorem IsInert.isDotPiece_eq_false (h : IsInert text) (hfirst : text.head? ≠ some '.')
    (hlast : text.getLast? ≠ some '.') :
    ∀ piece ∈ piecesOf .special text, isDotPiece piece = false := by
  intro piece hpiece
  have hbackslash : '\\' ∉ text := h.not_mem (by decide)
  have hpart : piece <:+: text := by
    obtain ⟨before, behind, rfl, -⟩ := Text.exists_eq_of_mem_splitOn hpiece
    exact List.infix_append before piece behind
  have hescape : ¬Percent.HasEscape piece := by
    rintro ⟨a, b, ha, hb, hinside⟩
    exact h _ (.escape ha hb) (hinside.trans hpart)
  have hfront : ∀ piece, piece.head? = some '.' → ¬piece <+: text := by
    rintro (_ | ⟨c, piece⟩) hc ⟨t, rfl⟩
    · cases hc
    · exact hfirst hc
  have hend : ∀ piece, piece.getLast? = some '.' → ¬piece <:+ text := by
    rintro piece hc ⟨t, rfl⟩
    exact hlast (by rw [List.getLast?_append, hc]; rfl)
  rw [← Bool.not_eq_true]
  intro hdot
  rcases eq_of_isDotPiece hdot hescape with rfl | rfl
  · exact h _ .dot (slashes_around_piece hpiece hbackslash (hfront _ rfl) (hend _ rfl))
  · exact h _ .dots (slashes_around_piece hpiece hbackslash (hfront _ rfl) (hend _ rfl))

/-- A text that neither begins nor ends with a dot is inert exactly if all of it is left as a path
and it has no dot piece, no separator but slashes, and no escape. -/
theorem isInert_iff (hfirst : text.head? ≠ some '.') (hlast : text.getLast? ≠ some '.') :
    IsInert text ↔ pathText (seen text) = text ∧
      (∀ piece ∈ piecesOf .special text, isDotPiece piece = false) ∧
        slashed text = text ∧ ¬Percent.HasEscape text := by
  constructor
  · intro h
    refine ⟨h.pathText_seen, h.isDotPiece_eq_false hfirst hlast, h.slashed_eq, ?_⟩
    rintro ⟨a, b, ha, hb, hpart⟩
    exact h _ (.escape ha hb) hpart
  · rintro ⟨hpath, hdots, hslashed, hescape⟩ p hp hpart
    cases hp with
    | @single c hc =>
      have hmem : c ∈ text := hpart.subset (List.mem_singleton_self c)
      have hsame := List.map_inj_left.1 (hslashed.trans (List.map_id text).symm) c hmem
      rw [← hpath] at hmem
      have hends := List.mem_takeWhile_imp hmem
      have hseen := List.of_mem_filter ((List.takeWhile_sublist _).subset hmem)
      simp only [singleMarks, List.mem_cons, List.not_mem_nil, or_false] at hc
      -- A question mark and a hash end a path, a backslash is a separator, the others are not seen.
      rcases hc with rfl | rfl | rfl | rfl | rfl | rfl
      · cases hends
      · cases hends
      · cases hsame
      · cases hseen
      · cases hseen
      · cases hseen
    | escape ha hb => exact hescape ⟨_, _, ha, hb, hpart⟩
    | dot =>
      have hpiece : ['.'] ∈ piecesOf .special text :=
        Text.mem_splitOn_of_between rfl rfl (by simp [isSlash_special]) hpart
      cases hdots _ hpiece
    | dots =>
      have hpiece : ['.', '.'] ∈ piecesOf .special text :=
        Text.mem_splitOn_of_between rfl rfl (by simp [isSlash_special]) hpart
      cases hdots _ hpiece

/-- A text that is left as a path leaves nothing for a query and a fragment. -/
theorem tailText_eq_nil (h : pathText (seen text) = text) : tailText (seen text) = [] := by
  have hlength := (seen_sublist text).length_le
  have hcut := congrArg List.length
    (List.takeWhile_append_dropWhile (p := (!endsPath ·)) (l := seen text))
  rw [List.length_append, ← pathText, h, ← tailText] at hcut
  exact List.length_eq_zero_iff.1 (by omega)

end

end Url

end ODataSession
