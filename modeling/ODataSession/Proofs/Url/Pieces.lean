import Mathlib.Data.List.Induction
import ODataSession.Proofs.Text.Case
import ODataSession.Url.Segments

/-!
# Pieces of paths

What becomes of the octets of a text when it is cut into pieces and the pieces are appended to a
path of a special scheme. Without a dot piece nothing is lost: the pieces follow the segments that
are there already (`pushPieces_of_forall_not`). Each dot piece costs at least one octet
(`octetCount_pushPieces`), and so does each escape. A path therefore stands for the octets of a text
only if the text has neither.
-/

namespace ODataSession

/-! ## Splitting -/

namespace Text

variable {separates : Char → Bool}

/-- A separator cuts a text into parts that are split alone. -/
theorem splitOn_append_cons {c : Char} (hc : separates c = true) (s t : List Char) :
    splitOn separates (s ++ c :: t) = splitOn separates s ++ splitOn separates t := by
  induction s with
  | nil => simp [splitOn, hc]
  | cons d s ih =>
    rw [List.cons_append, splitOn, splitOn, ih]
    split
    · rfl
    · cases hs : splitOn separates s with
      | nil => exact absurd hs (splitOn_ne_nil _ _)
      | cons part parts => rfl

/-- The parts of a text, each behind a mark, are the text behind a mark with all separators replaced
by the mark. -/
theorem flatMap_splitOn (mark : Char) (s : List Char) :
    (splitOn separates s).flatMap (mark :: ·) =
      mark :: s.map fun c => if separates c then mark else c := by
  induction s with
  | nil => rfl
  | cons c s ih =>
    rw [splitOn, List.map_cons]
    split
    · rw [List.flatMap_cons, ih]
      rfl
    · cases hs : splitOn separates s with
      | nil => exact absurd hs (splitOn_ne_nil _ _)
      | cons part parts =>
        rw [hs, List.flatMap_cons, List.cons_append] at ih
        rw [consFirst, List.flatMap_cons, List.cons_append, List.cons_append, List.cons.inj ih |>.2]

/-- A text between two separators is a part. -/
theorem mem_splitOn_of_between {c d : Char} (hc : separates c = true) (hd : separates d = true)
    {part s : List Char} (hpart : ∀ c ∈ part, separates c = false)
    (h : c :: (part ++ [d]) <:+: s) : part ∈ splitOn separates s := by
  obtain ⟨before, behind, rfl⟩ := h
  have hs : before ++ c :: (part ++ [d]) ++ behind = before ++ c :: (part ++ d :: behind) := by
    simp
  rw [hs, splitOn_append_cons hc, splitOn_append_cons hd, splitOn_of_forall_not hpart]
  simp

/-- A part begins at the start of the text or behind a separator, and ends at the end of the text or
in front of a separator. -/
theorem exists_eq_of_mem_splitOn {part s : List Char} (h : part ∈ splitOn separates s) :
    ∃ before behind, s = before ++ part ++ behind ∧
      (∀ c ∈ before.getLast?, separates c = true) ∧ ∀ c ∈ behind.head?, separates c = true := by
  induction hn : s.length using Nat.strongRecOn generalizing s with
  | _ n ih =>
    by_cases hs : ∃ c ∈ s, separates c = true
    · obtain ⟨c, hmem, hc⟩ := hs
      obtain ⟨s, t, rfl⟩ := List.append_of_mem hmem
      rw [splitOn_append_cons hc, List.mem_append] at h
      rw [List.length_append, List.length_cons] at hn
      rcases h with h | h
      · obtain ⟨before, behind, rfl, hbefore, hbehind⟩ := ih s.length (by omega) h rfl
        refine ⟨before, behind ++ c :: t, by simp, hbefore, ?_⟩
        cases behind with
        | nil => simpa using hc
        | cons => exact hbehind
      · obtain ⟨before, behind, rfl, hbefore, hbehind⟩ := ih t.length (by omega) h rfl
        refine ⟨s ++ c :: before, behind, by simp, ?_, hbehind⟩
        cases before with
        | nil => simpa using hc
        | cons => simpa using hbefore
    · rw [splitOn_of_forall_not (by simpa using hs), List.mem_singleton] at h
      exact ⟨[], [], by simp [h], nofun, nofun⟩

end Text

/-! ## Octets of segments -/

namespace Url

/-- A slash is no digit, so the octets of a path are those of its segments. -/
theorem octets_segments_append (segments segments' : List (List Char)) :
    Percent.octets (Path.segments (segments ++ segments')).chars =
      Percent.octets (Path.segments segments).chars ++
        Percent.octets (Path.segments segments').chars := by
  simp only [Path.chars, List.flatMap_append]
  cases segments' with
  | nil => simp [Percent.octets]
  | cons segment segments' => exact Percent.octets_append_cons (by decide) _ _

/-- The octets of one segment stand behind that of a slash. -/
theorem octets_segments_singleton (segment : List Char) :
    Percent.octets (Path.segments [segment]).chars = 0x2f :: Percent.octets segment := by
  have hslash : ¬Percent.StartsEscape ('/' :: segment) := by
    rintro ⟨a, b, -, -, h⟩
    cases (List.cons_prefix_cons.1 h).1
  rw [Path.chars, List.flatMap_singleton, Percent.octets_cons_of_not hslash]
  rfl

/-- How many octets the path of some segments stands for. -/
def octetCount (segments : List (List Char)) : Nat :=
  (Percent.octets (Path.segments segments).chars).length

@[simp] theorem octetCount_nil : octetCount [] = 0 := rfl

@[simp] theorem octetCount_append (segments segments' : List (List Char)) :
    octetCount (segments ++ segments') = octetCount segments + octetCount segments' := by
  rw [octetCount, octets_segments_append, List.length_append]
  rfl

@[simp] theorem octetCount_singleton (segment : List Char) :
    octetCount [segment] = (Percent.octets segment).length + 1 := by
  rw [octetCount, octets_segments_singleton, List.length_cons]

/-- What a segment of a special scheme keeps of a piece stands for the octets of the piece. -/
theorem octets_encode_keptInPath (piece : List Char) :
    Percent.octets (Percent.encode keptInPath piece) = Percent.octets piece := by
  have hdigits : ∀ c : Char, c.toNat < 103 → Percent.IsHexDigit c → keptInPath c = true :=
    Text.forall_toNat_lt (by decide)
  exact Percent.octets_encode rfl
    (fun c hc => hdigits c (Percent.toNat_lt_of_isHexDigit hc) hc) piece

/-! ## Dot pieces -/

/-- A piece that stands for a directory. -/
def isDotPiece (piece : List Char) : Bool :=
  isSingleDot piece || isDoubleDot piece

/-- A character whose lower case is no letter is that character. -/
theorem eq_of_toLower_eq {c d : Char} (h : c.toLower = d) (hd : d.isLower = false) : c = d := by
  have hcapitals : ∀ c : Char, c.toNat < 91 → c.isUpper = true → c.toLower.isLower = true :=
    Text.forall_toNat_lt (by decide)
  cases hupper : c.isUpper with
  | false => rw [← h, Text.toLower_of_not_isUpper hupper]
  | true =>
    have hlower := hcapitals c (Text.toNat_lt_of_isUpper hupper) hupper
    rw [h, hd] at hlower
    cases hlower

/-- A character whose lower case is `e` is a digit. -/
theorem isHexDigit_of_toLower_eq {c : Char} (h : c.toLower = 'e') : Percent.IsHexDigit c := by
  have hcapitals : ∀ c : Char, c.toNat < 91 → c.isUpper = true → c.toLower = 'e' →
      Percent.IsHexDigit c :=
    Text.forall_toNat_lt (by decide)
  cases hupper : c.isUpper with
  | false =>
    rw [Text.toLower_of_not_isUpper hupper] at h
    rw [h]
    decide
  | true => exact hcapitals c (Text.toNat_lt_of_isUpper hupper) hupper h

/-- The escape of a dot is an escape in any case. -/
theorem hasEscape_of_escapedDot {piece : List Char} (h : "%2e".toList <:+: piece.map Char.toLower) :
    Percent.HasEscape piece := by
  obtain ⟨part, hpart, heq⟩ := List.infix_map_iff.1 h
  obtain ⟨a, _, rfl, ha, heq⟩ := List.map_eq_cons_iff.1 heq.symm
  obtain ⟨b, _, rfl, hb, heq⟩ := List.map_eq_cons_iff.1 heq
  obtain ⟨c, _, rfl, hc, heq⟩ := List.map_eq_cons_iff.1 heq
  obtain rfl := List.map_eq_nil_iff.1 heq
  obtain rfl := eq_of_toLower_eq ha rfl
  obtain rfl := eq_of_toLower_eq hb rfl
  exact ⟨'2', c, by decide, isHexDigit_of_toLower_eq hc, hpart⟩

/-- A dot piece without an escape is one dot or two. -/
theorem eq_of_isDotPiece {piece : List Char} (h : isDotPiece piece = true)
    (hescape : ¬Percent.HasEscape piece) : piece = ['.'] ∨ piece = ['.', '.'] := by
  have hno : ∀ spelling : List Char, "%2e".toList <:+: spelling →
      piece.map Char.toLower ≠ spelling := by
    rintro _ hinfix rfl
    exact hescape (hasEscape_of_escapedDot hinfix)
  simp only [isDotPiece, isSingleDot, isDoubleDot, Bool.or_eq_true, decide_eq_true_eq] at h
  rcases h with (h | h) | ((h | h) | h) | h
  · obtain ⟨a, _, rfl, ha, heq⟩ := List.map_eq_cons_iff.1 h
    obtain rfl := List.map_eq_nil_iff.1 heq
    exact .inl (by rw [eq_of_toLower_eq ha rfl])
  · exact absurd h (hno _ (by decide))
  · have hdots : piece.map Char.toLower = ['.', '.'] := h
    obtain ⟨a, _, rfl, ha, heq⟩ := List.map_eq_cons_iff.1 hdots
    obtain ⟨b, _, rfl, hb, heq⟩ := List.map_eq_cons_iff.1 heq
    obtain rfl := List.map_eq_nil_iff.1 heq
    exact .inr (by rw [eq_of_toLower_eq ha rfl, eq_of_toLower_eq hb rfl])
  · exact absurd h (hno _ (by decide))
  · exact absurd h (hno _ (by decide))
  · exact absurd h (hno _ (by decide))

/-- Pieces that stand for no directories are appended as they are, but for what a path escapes. -/
theorem pushPieces_of_forall_not {segments pieces : List (List Char)}
    (h : ∀ piece ∈ pieces, isDotPiece piece = false) :
    pushPieces .special segments pieces = segments ++ pieces.map (Percent.encode keptInPath) := by
  have hpush : ∀ segments piece last, isDotPiece piece = false →
      pushPiece .special segments piece last =
        segments ++ [Percent.encode keptInPath piece] := by
    intro segments piece last hpiece
    obtain ⟨hsingle, hdouble⟩ := Bool.or_eq_false_iff.1 hpiece
    simp [pushPiece, hsingle, hdouble, segmentOf]
  induction pieces generalizing segments with
  | nil => simp [pushPieces]
  | cons piece pieces ih =>
    obtain ⟨hpiece, hpieces⟩ := List.forall_mem_cons.1 h
    cases pieces with
    | nil => exact hpush segments piece true hpiece
    | cons next pieces => rw [pushPieces, hpush _ _ _ hpiece, ih hpieces, List.append_assoc]; rfl

/-- No segment of a special scheme is dropped for being empty. -/
theorem resolvePath_special (segments : List (List Char)) (text : List Char) :
    resolvePath .special segments text =
      pushPieces .special segments (piecesOf .special text) := by
  have hkind : SchemeKind.special ≠ .file := by decide
  rw [resolvePath, trimEmpty, if_neg hkind]

/-- Going up a directory adds no octets. -/
theorem octetCount_shorten_le (segments : List (List Char)) :
    octetCount (shorten segments) ≤ octetCount segments := by
  unfold shorten
  split
  · exact Nat.le_refl _
  · cases segments using List.reverseRecOn with
    | nil => exact Nat.le_refl _
    | append_singleton segments segment =>
      rw [List.dropLast_concat, octetCount_append]
      exact Nat.le_add_right _ _

/-- A dot piece costs an octet at least. -/
theorem octetCount_pushPiece (segments : List (List Char)) (piece : List Char) (last : Bool) :
    octetCount (pushPiece .special segments piece last) + [piece].countP isDotPiece ≤
      octetCount segments + octetCount [piece] := by
  have hdrop := octetCount_shorten_le segments
  have hlast : octetCount (if last then [[]] else []) ≤ 1 := by
    cases last <;> decide
  have hoctets : isDotPiece piece = true → 0 < (Percent.octets piece).length := by
    intro hdot
    refine Percent.length_octets_pos ?_
    rintro rfl
    cases hdot
  unfold pushPiece
  split
  · next hdouble =>
    have hdot : isDotPiece piece = true := by simp [isDotPiece, hdouble]
    have hpos := hoctets hdot
    rw [octetCount_append, octetCount_singleton, List.countP_singleton, hdot, if_pos rfl]
    omega
  · split
    · next hsingle =>
      have hdot : isDotPiece piece = true := by simp [isDotPiece, hsingle]
      have hpos := hoctets hdot
      rw [octetCount_append, octetCount_singleton, List.countP_singleton, hdot, if_pos rfl]
      omega
    · next hdouble hsingle =>
      have hdot : isDotPiece piece = false := by simp [isDotPiece, hsingle, hdouble]
      simp [hdot, segmentOf, octets_encode_keptInPath]

/-- Each dot piece costs an octet at least. -/
theorem octetCount_pushPieces (segments pieces : List (List Char)) :
    octetCount (pushPieces .special segments pieces) + pieces.countP isDotPiece ≤
      octetCount segments + octetCount pieces := by
  induction pieces generalizing segments with
  | nil => simp [pushPieces]
  | cons piece pieces ih =>
    cases pieces with
    | nil => exact octetCount_pushPiece segments piece true
    | cons next pieces =>
      have hfirst := octetCount_pushPiece segments piece false
      have hrest := ih (pushPiece .special segments piece false)
      have hcons : piece :: next :: pieces = [piece] ++ next :: pieces := rfl
      rw [pushPieces, hcons, List.countP_append, octetCount_append]
      omega

/-! ## Octets of pieces -/

/-- Escaping the pieces leaves the octets of their path as they are. -/
theorem octets_segments_map_encode (pieces : List (List Char)) :
    Percent.octets (Path.segments (pieces.map (Percent.encode keptInPath))).chars =
      Percent.octets (Path.segments pieces).chars := by
  induction pieces with
  | nil => rfl
  | cons piece pieces ih =>
    rw [List.map_cons, ← List.singleton_append, octets_segments_append, ih,
      octets_segments_singleton, octets_encode_keptInPath, ← octets_segments_singleton,
      ← octets_segments_append, List.singleton_append]

/-- A text with every separator of segments written as a slash. -/
def slashed (s : List Char) : List Char :=
  s.map fun c => if isSlash .special c then '/' else c

/-- The pieces of a text stand for the octets of the text, with slashes for separators. -/
theorem octets_segments_piecesOf (s : List Char) :
    Percent.octets (Path.segments (piecesOf .special s)).chars =
      0x2f :: Percent.octets (slashed s) := by
  rw [← octets_segments_singleton, Path.chars, piecesOf, Text.flatMap_splitOn, Path.chars,
    List.flatMap_singleton, slashed]

/-- Both separators of segments have one octet. -/
theorem length_encode_slashed (s : List Char) :
    (Utf8.encode (slashed s)).length = (Utf8.encode s).length := by
  induction s with
  | nil => rfl
  | cons c s ih =>
    rw [slashed, List.map_cons, Utf8.encode_cons, Utf8.encode_cons, List.length_append,
      List.length_append, ← slashed, ih]
    split
    · next hc =>
      obtain rfl | rfl : c = '/' ∨ c = '\\' := by simpa [isSlash_special] using hc
      · rfl
      · rfl
    · rfl

/-- The pieces of what is left of a text, appended to some segments, stand for the octets of the
segments and the whole text only if all of it is left and it has no dot piece, no separator but
slashes, and no escape. -/
theorem octets_pushPieces_iff (segments : List (List Char)) {s text : List Char}
    (hsub : s.Sublist text) :
    Percent.octets (Path.segments (pushPieces .special segments (piecesOf .special s))).chars =
        Percent.octets (Path.segments segments).chars ++ 0x2f :: Utf8.encode text ↔
      s = text ∧ (∀ piece ∈ piecesOf .special text, isDotPiece piece = false) ∧
        slashed text = text ∧ ¬Percent.HasEscape text := by
  constructor
  · intro h
    have hlength := congrArg List.length h
    rw [← octetCount, List.length_append, ← octetCount, List.length_cons] at hlength
    have hcount := octetCount_pushPieces segments (piecesOf .special s)
    have hpieces : octetCount (piecesOf .special s) = (Percent.octets (slashed s)).length + 1 := by
      rw [octetCount, octets_segments_piecesOf, List.length_cons]
    have hoctets := Percent.length_octets_le (slashed s)
    rw [length_encode_slashed] at hoctets
    have hkept := (hsub.flatMap String.utf8EncodeChar).length_le
    change (Utf8.encode s).length ≤ (Utf8.encode text).length at hkept
    obtain rfl : s = text := Utf8.eq_of_sublist hsub (by omega)
    have hdots : ∀ piece ∈ piecesOf .special s, isDotPiece piece = false := by
      have hzero : (piecesOf .special s).countP isDotPiece = 0 := by omega
      simpa using List.countP_eq_zero.1 hzero
    have hescape : ¬Percent.HasEscape (slashed s) := by
      intro hescape
      have hfewer := Percent.length_octets_lt hescape
      rw [length_encode_slashed] at hfewer
      omega
    rw [pushPieces_of_forall_not hdots, octets_segments_append, octets_segments_map_encode,
      octets_segments_piecesOf, List.append_cancel_left_eq, List.cons.injEq,
      Percent.octets_eq_encode hescape] at h
    have hslashed := Utf8.encode_injective h.2
    exact ⟨rfl, hdots, hslashed, hslashed ▸ hescape⟩
  · rintro ⟨rfl, hdots, hslashed, hescape⟩
    rw [pushPieces_of_forall_not hdots, octets_segments_append, octets_segments_map_encode,
      octets_segments_piecesOf, hslashed, Percent.octets_eq_encode hescape]

end Url

end ODataSession
