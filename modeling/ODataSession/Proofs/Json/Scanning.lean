import ODataSession.Proofs.Json.Grammar

/-!
# Reading the tokens of the grammar

A string is read in rounds, one for each of its pieces. The lenient reading takes any pieces
(`Json.exists_scanString_lenient`). The exact reading takes a character in each of its ways, both
surrogates at once (`Json.Spells.scanString`), and takes no other strings: what it takes spells the
text that it returns (`Json.IsString.spells_of_scanString`). In either reading nothing behind the
string is taken. A number of the grammar is read up to its end (`Json.IsNumber.exists_scanNumber`).
-/

namespace ODataSession.Json

variable {reading : Reading} {fuel : Nat} {s rest r t : List Char} {c : Char}
  {pieces : List (List Char)}

/-! ## Blanks -/

/-- Blanks in front are skipped. -/
theorem skipSpace_append {blank : List Char} (h : IsBlank blank) (s : List Char) :
    skipSpace (blank ++ s) = skipSpace s :=
  List.dropWhile_append_of_pos h

/-- Behind blanks there are none left to skip. -/
theorem skipSpace_skipSpace (s : List Char) : skipSpace (skipSpace s) = skipSpace s :=
  List.dropWhile_idempotent isSpace s

/-- A number ends in front of blanks. -/
theorem endsNumber_append {blank : List Char} (h : IsBlank blank) (hrest : EndsNumber rest) :
    EndsNumber (blank ++ rest) := by
  cases blank with
  | nil => exact hrest
  | cons c blank =>
    have hspaces : ∀ c : Char, isSpace c = true → continuesNumber c = false := by
      intro c hc
      simp only [isSpace, Bool.or_eq_true, decide_eq_true_eq] at hc
      rcases hc with ((rfl | rfl) | rfl) | rfl <;> decide
    exact endsNumber_cons (hspaces c (h c List.mem_cons_self)) _

/-! ## Escapes -/

/-- A hexadecimal digit is below sixteen. -/
theorem lt_of_hexValue? {n : Nat} (h : Percent.hexValue? c = some n) : n < 16 := by
  simp only [Percent.hexValue?, Char.le_def, UInt32.le_iff_toNat_le, Bool.and_eq_true,
    decide_eq_true_eq] at h
  split at h
  · next hrange =>
    obtain rfl := Option.some.inj h
    have : c.toNat ≤ 57 := hrange.2
    have : '0'.toNat = 48 := rfl
    omega
  split at h
  · next hrange =>
    obtain rfl := Option.some.inj h
    have : c.toNat ≤ 102 := hrange.2
    have : 'a'.toNat = 97 := rfl
    omega
  split at h
  · next hrange =>
    obtain rfl := Option.some.inj h
    have : c.toNat ≤ 70 := hrange.2
    have : 'A'.toNat = 65 := rfl
    omega
  · cases h

section
variable {n : Nat} {quad : List Char} (h : IsQuad n quad)
include h

/-- Four digits are read by their value. -/
theorem IsQuad.scanHexQuad (rest : List Char) : scanHexQuad (quad ++ rest) = .ok (n, rest) := by
  cases h with
  | mk ha hb hc hd =>
    simp only [List.cons_append, List.nil_append, Json.scanHexQuad, ha, hb, hc, hd]

/-- Four digits are 16 bits at most. -/
theorem IsQuad.lt : n < 0x10000 := by
  cases h with
  | mk ha hb hc hd =>
    have := lt_of_hexValue? ha
    have := lt_of_hexValue? hb
    have := lt_of_hexValue? hc
    have := lt_of_hexValue? hd
    omega

/-- A code unit that is no surrogate is read as its character. -/
theorem IsQuad.scanCodeUnit_of_not_surrogate
    (hplain : (isHighSurrogate n || isLowSurrogate n) = false) (rest : List Char) :
    scanCodeUnit reading (quad ++ rest) = .ok (Char.ofNat n, rest) := by
  simp [scanCodeUnit, h.scanHexQuad, hplain, bind, Except.bind, pure, Except.pure]

/-- The lenient reading takes every code unit. -/
theorem IsQuad.exists_scanCodeUnit_lenient (rest : List Char) :
    ∃ c, scanCodeUnit .lenient (quad ++ rest) = .ok (c, rest) := by
  cases hplain : isHighSurrogate n || isLowSurrogate n with
  | false => exact ⟨_, h.scanCodeUnit_of_not_surrogate hplain rest⟩
  | true =>
    exact ⟨'\ufffd', by
      simp [scanCodeUnit, h.scanHexQuad, hplain, bind, Except.bind, pure, Except.pure]⟩

/-- The exact reading takes a high surrogate with what follows it. -/
theorem IsQuad.scanCodeUnit_of_high (hhigh : isHighSurrogate n = true) (rest : List Char) :
    scanCodeUnit .exact (quad ++ rest) = scanLowSurrogate n rest := by
  simp [scanCodeUnit, h.scanHexQuad, hhigh, bind, Except.bind]

/-- The exact reading takes a low surrogate that starts no pair for a fault. -/
theorem IsQuad.scanCodeUnit_of_low (hhigh : isHighSurrogate n = false)
    (hlow : isLowSurrogate n = true) (rest : List Char) :
    scanCodeUnit .exact (quad ++ rest) = .error .malformed := by
  simp [scanCodeUnit, h.scanHexQuad, hhigh, hlow, bind, Except.bind, throw, throwThe,
    MonadExceptOf.throw]

/-- A low surrogate is read behind a high one. -/
theorem IsQuad.scanLowSurrogate (high : Nat) (rest : List Char) :
    scanLowSurrogate high ('\\' :: 'u' :: (quad ++ rest)) =
      if isLowSurrogate n then .ok (ofSurrogates high n, rest) else .error .malformed := by
  rw [Json.scanLowSurrogate, h.scanHexQuad]
  rfl

end

/-- No character is a surrogate. -/
theorem not_isSurrogate (c : Char) :
    (isHighSurrogate c.toNat || isLowSurrogate c.toNat) = false := by
  have hvalid : c.toNat < 0xd800 ∨ 0xdfff < c.toNat ∧ c.toNat < 0x110000 := c.valid
  simp only [isHighSurrogate, isLowSurrogate, Bool.or_eq_false_iff, Bool.and_eq_false_iff,
    decide_eq_false_iff_not]
  omega

/-- A character is made from its number. -/
theorem toNat_ofNat {n : Nat} (h : n.isValidChar) : (Char.ofNat n).toNat = n := by
  rw [Char.ofNat, dif_pos h]
  rfl

/-- A code unit that is no surrogate is a character. -/
theorem toNat_ofNat_of_not_surrogate {n : Nat} (hlt : n < 0x10000)
    (h : (isHighSurrogate n || isLowSurrogate n) = false) : (Char.ofNat n).toNat = n := by
  simp only [isHighSurrogate, isLowSurrogate, Bool.or_eq_false_iff, Bool.and_eq_false_iff,
    decide_eq_false_iff_not] at h
  refine toNat_ofNat ?_
  rw [Nat.isValidChar]
  omega

/-- A pair of surrogates is a character above the basic plane. -/
theorem toNat_ofSurrogates {high low : Nat} (hhigh : isHighSurrogate high = true)
    (hlow : isLowSurrogate low = true) :
    (ofSurrogates high low).toNat = 0x10000 + (high - 0xd800) * 0x400 + (low - 0xdc00) := by
  simp only [isHighSurrogate, isLowSurrogate, Bool.and_eq_true, decide_eq_true_eq] at hhigh hlow
  refine toNat_ofNat ?_
  rw [Nat.isValidChar]
  omega

/-- A letter behind a backslash is read as the character that it stands for. -/
theorem scanEscape_letter {letter : Char} (h : (c, letter) ∈ escapeLetters) (rest : List Char) :
    scanEscape reading (letter :: rest) = .ok (c, rest) := by
  simp only [escapeLetters, controlLetters, List.cons_append, List.nil_append, List.mem_cons,
    Prod.mk.injEq, List.not_mem_nil, or_false] at h
  rcases h with ⟨rfl, rfl⟩ | ⟨rfl, rfl⟩ | ⟨rfl, rfl⟩ | ⟨rfl, rfl⟩ | ⟨rfl, rfl⟩ | ⟨rfl, rfl⟩ |
    ⟨rfl, rfl⟩ | ⟨rfl, rfl⟩ <;> rfl

/-- The letter of the code units stands for no character. -/
theorem ne_of_mem_escapeLetters {letter : Char} (h : (c, letter) ∈ escapeLetters) :
    letter ≠ 'u' := by
  have hall : ∀ p ∈ escapeLetters, p.2 ≠ 'u' := by decide
  exact hall _ h

/-! ## Strings -/

/-- The lenient reading takes a piece in one round. -/
theorem IsPiece.exists_scanStringWithin (h : IsPiece s) (fuel : Nat) (rest : List Char) :
    ∃ c, scanStringWithin .lenient (fuel + 1) (s ++ rest) =
      (scanStringWithin .lenient fuel rest).map fun (s, rest) => (c :: s, rest) := by
  cases h with
  | @plain c hmark hcontrol =>
    rw [List.mem_cons, List.mem_singleton, not_or] at hmark
    exact ⟨c, scanStringWithin_plain _ hmark.1 hmark.2 hcontrol⟩
  | @letter c letter h => exact ⟨c, scanStringWithin_backslash _ (scanEscape_letter h rest)⟩
  | codeUnit h =>
    obtain ⟨c, hc⟩ := h.exists_scanCodeUnit_lenient rest
    exact ⟨c, scanStringWithin_backslash _ hc⟩

/-- The exact reading takes a character in one round, in each of its ways. -/
theorem SpellsChar.scanStringWithin (h : SpellsChar c s) (fuel : Nat) (rest : List Char) :
    scanStringWithin .exact (fuel + 1) (s ++ rest) =
      (scanStringWithin .exact fuel rest).map fun (s, rest) => (c :: s, rest) := by
  cases h with
  | plain hmark hcontrol =>
    rw [List.mem_cons, List.mem_singleton, not_or] at hmark
    exact scanStringWithin_plain _ hmark.1 hmark.2 hcontrol
  | letter h => exact scanStringWithin_backslash _ (scanEscape_letter h rest)
  | codeUnit h =>
    have hread : scanCodeUnit .exact _ = _ :=
      h.scanCodeUnit_of_not_surrogate (not_isSurrogate c) rest
    rw [Char.ofNat_toNat] at hread
    exact scanStringWithin_backslash _ hread
  | @surrogates high low quad quad' hhigh hquad hlow hquad' hvalue =>
    have hpair : ofSurrogates high low = c := by
      rw [← Char.toNat_inj, toNat_ofSurrogates hhigh hlow, hvalue]
    have hread : scanEscape .exact ('u' :: (quad ++ '\\' :: 'u' :: (quad' ++ rest))) =
        .ok (c, rest) := by
      rw [scanEscape, hquad.scanCodeUnit_of_high hhigh, hquad'.scanLowSurrogate, if_pos hlow, hpair]
    rw [List.cons_append, List.cons_append, List.append_assoc, List.cons_append, List.cons_append]
    exact scanStringWithin_backslash _ hread

/-- A code unit that is no character makes a string that is no text. -/
theorem scanStringWithin_codeUnit_error {fault : Fault}
    (h : scanCodeUnit reading s = .error fault) :
    scanStringWithin reading (fuel + 1) ('\\' :: 'u' :: s) = .error fault := by
  have hread : scanEscape reading ('u' :: s) = .error fault := h
  rw [scanStringWithin, if_neg (by decide), if_pos rfl, hread]
  rfl

/-- A character that is no backslash starts no second surrogate. -/
theorem scanLowSurrogate_of_ne (n : Nat) (h : c ≠ '\\') (s : List Char) :
    scanLowSurrogate n (c :: s) = .error .malformed := by
  rw [scanLowSurrogate]
  · exact List.cons_ne_nil c s
  · intro hc
    exact h (List.cons.inj hc).1
  · intro rest hc
    exact h (List.cons.inj hc).1

/-- An escape that is no code unit is no second surrogate. -/
theorem scanLowSurrogate_letter (n : Nat) {letter : Char} (h : letter ≠ 'u') (s : List Char) :
    scanLowSurrogate n ('\\' :: letter :: s) = .error .malformed := by
  rw [scanLowSurrogate]
  · exact List.cons_ne_nil _ _
  · nofun
  · intro rest heq
    exact h (List.cons.inj (List.cons.inj heq).2).1

/-- Behind a high surrogate there is a low one, or the exact reading fails. -/
theorem scanLowSurrogate_pieces (n : Nat) (h : ∀ piece ∈ pieces, IsPiece piece)
    (rest : List Char) :
    (∃ low quad pieces', isLowSurrogate low = true ∧ IsQuad low quad ∧
      pieces = ('\\' :: 'u' :: quad) :: pieces') ∨
    ∃ fault, scanLowSurrogate n (pieces.flatten ++ '"' :: rest) = .error fault := by
  cases pieces with
  | nil => exact .inr ⟨.malformed, scanLowSurrogate_of_ne n (by decide) _⟩
  | cons piece pieces =>
    obtain ⟨hpiece, -⟩ := List.forall_mem_cons.1 h
    rw [List.flatten_cons, List.append_assoc]
    cases hpiece with
    | plain hmark =>
      rw [List.mem_cons, List.mem_singleton, not_or] at hmark
      exact .inr ⟨.malformed, scanLowSurrogate_of_ne n hmark.2 _⟩
    | letter hletter =>
      exact .inr ⟨.malformed, scanLowSurrogate_letter n (ne_of_mem_escapeLetters hletter) _⟩
    | @codeUnit low quad hquad =>
      cases hlow : isLowSurrogate low with
      | true => exact .inl ⟨low, quad, pieces, hlow, hquad, rfl⟩
      | false =>
        refine .inr ⟨.malformed, ?_⟩
        rw [List.cons_append, List.cons_append, hquad.scanLowSurrogate, hlow]
        rfl

/-- A piece has a character. -/
theorem IsPiece.ne_nil (h : IsPiece s) : s ≠ [] := by
  cases h <;> exact List.cons_ne_nil _ _

/-- The ways of a character have a character. -/
theorem SpellsChar.ne_nil (h : SpellsChar c s) : s ≠ [] := by
  cases h <;> exact List.cons_ne_nil _ _

/-- There are not more texts than characters in all of them. -/
theorem length_le_length_flatten (h : ∀ piece ∈ pieces, piece ≠ []) :
    pieces.length ≤ pieces.flatten.length := by
  induction pieces with
  | nil => exact Nat.le_refl 0
  | cons piece pieces ih =>
    obtain ⟨hpiece, hpieces⟩ := List.forall_mem_cons.1 h
    have hpos := List.length_pos_iff.2 hpiece
    have := ih hpieces
    rw [List.flatten_cons, List.length_append, List.length_cons]
    omega

/-- The lenient reading takes any pieces up to the quote behind them. -/
theorem exists_scanStringWithin_lenient (h : ∀ piece ∈ pieces, IsPiece piece)
    (hfuel : pieces.length < fuel) :
    ∃ t, scanStringWithin .lenient fuel (pieces.flatten ++ '"' :: rest) = .ok (t, rest) := by
  induction pieces generalizing fuel with
  | nil =>
    obtain ⟨fuel, rfl⟩ := Nat.exists_eq_succ_of_ne_zero (Nat.ne_of_gt hfuel)
    exact ⟨[], rfl⟩
  | cons piece pieces ih =>
    obtain ⟨hpiece, hpieces⟩ := List.forall_mem_cons.1 h
    obtain ⟨fuel, rfl⟩ := Nat.exists_eq_succ_of_ne_zero (Nat.ne_of_gt (Nat.zero_lt_of_lt hfuel))
    obtain ⟨t, ht⟩ := ih hpieces (Nat.lt_of_succ_lt_succ hfuel)
    obtain ⟨c, hc⟩ := hpiece.exists_scanStringWithin fuel (pieces.flatten ++ '"' :: rest)
    exact ⟨c :: t, by rw [List.flatten_cons, List.append_assoc, hc, ht]; rfl⟩

/-- The exact reading takes the ways of characters up to the quote behind them. -/
theorem scanStringWithin_exact (h : List.Forall₂ SpellsChar t pieces) (hfuel : t.length < fuel) :
    scanStringWithin .exact fuel (pieces.flatten ++ '"' :: rest) = .ok (t, rest) := by
  induction h generalizing fuel with
  | nil =>
    obtain ⟨fuel, rfl⟩ := Nat.exists_eq_succ_of_ne_zero (Nat.ne_of_gt hfuel)
    rfl
  | cons hpiece _ ih =>
    obtain ⟨fuel, rfl⟩ := Nat.exists_eq_succ_of_ne_zero (Nat.ne_of_gt (Nat.zero_lt_of_lt hfuel))
    rw [List.flatten_cons, List.append_assoc, hpiece.scanStringWithin,
      ih (Nat.lt_of_succ_lt_succ hfuel)]
    rfl

/-- Pieces start with a way of a character, or the exact reading fails. -/
theorem IsPiece.exists_way (h : IsPiece s) (hpieces : ∀ piece ∈ pieces, IsPiece piece)
    (rest : List Char) :
    (∃ c way, ∃ pieces' : List (List Char), SpellsChar c way ∧
      (∀ piece ∈ pieces', IsPiece piece) ∧ s ++ pieces.flatten = way ++ pieces'.flatten) ∨
    ∀ fuel, ∃ fault,
      scanStringWithin .exact (fuel + 1) (s ++ (pieces.flatten ++ '"' :: rest)) = .error fault := by
  cases h with
  | plain hmark hcontrol => exact .inl ⟨_, _, pieces, .plain hmark hcontrol, hpieces, rfl⟩
  | letter hletter => exact .inl ⟨_, _, pieces, .letter hletter, hpieces, rfl⟩
  | @codeUnit n quad hquad =>
    cases hplain : isHighSurrogate n || isLowSurrogate n with
    | false =>
      have hchar : (Char.ofNat n).toNat = n := toNat_ofNat_of_not_surrogate hquad.lt hplain
      exact .inl ⟨Char.ofNat n, _, pieces, .codeUnit (hchar.symm ▸ hquad), hpieces, rfl⟩
    | true =>
      cases hhigh : isHighSurrogate n with
      | false =>
        rw [hhigh, Bool.false_or] at hplain
        have hread := hquad.scanCodeUnit_of_low hhigh hplain (pieces.flatten ++ '"' :: rest)
        exact .inr fun fuel => ⟨.malformed, scanStringWithin_codeUnit_error hread⟩
      | true =>
        -- a high surrogate takes the next piece with it
        obtain ⟨low, quad', pieces', hlow, hquad', rfl⟩ | ⟨fault, herror⟩ :=
          scanLowSurrogate_pieces n hpieces rest
        · refine .inl ⟨ofSurrogates n low, _, pieces', .surrogates hhigh hquad hlow hquad'
            (toNat_ofSurrogates hhigh hlow), (List.forall_mem_cons.1 hpieces).2, ?_⟩
          simp only [List.flatten_cons, List.cons_append, List.append_assoc]
        · have hread := hquad.scanCodeUnit_of_high hhigh (pieces.flatten ++ '"' :: rest)
          rw [herror] at hread
          exact .inr fun fuel => ⟨fault, scanStringWithin_codeUnit_error hread⟩

/-- The exact reading takes pieces only if they are the ways of characters, and nothing behind the
quote. -/
theorem spells_of_scanStringWithin (h : ∀ piece ∈ pieces, IsPiece piece)
    (hscan : scanStringWithin .exact fuel (pieces.flatten ++ '"' :: rest) = .ok (t, r)) :
    r = rest ∧ ∃ ways, List.Forall₂ SpellsChar t ways ∧ ways.flatten = pieces.flatten := by
  -- the induction is on the rounds and not on the pieces, since a pair takes two of them
  induction fuel generalizing pieces t with
  | zero => cases hscan
  | succ fuel ih =>
    cases pieces with
    | nil =>
      cases hscan
      exact ⟨rfl, [], .nil, rfl⟩
    | cons piece pieces =>
      obtain ⟨hpiece, hpieces⟩ := List.forall_mem_cons.1 h
      rw [List.flatten_cons, List.append_assoc] at hscan
      obtain ⟨c, way, pieces', hway, hpieces', heq⟩ | herror := hpiece.exists_way hpieces rest
      · rw [← List.append_assoc, heq, List.append_assoc, hway.scanStringWithin] at hscan
        cases hmore : scanStringWithin .exact fuel (pieces'.flatten ++ '"' :: rest) with
        | error fault =>
          rw [hmore] at hscan
          cases hscan
        | ok result =>
          obtain ⟨s, r'⟩ := result
          rw [hmore] at hscan
          cases hscan
          obtain ⟨hr, ways, hways, hflatten⟩ := ih hpieces' hmore
          exact ⟨hr, way :: ways, .cons hway hways,
            by rw [List.flatten_cons, List.flatten_cons, hflatten, heq]⟩
      · obtain ⟨fault, herror⟩ := herror fuel
        rw [herror] at hscan
        cases hscan

/-- What is read of a string behind its opening quote. -/
theorem enquoted_append (pieces : List (List Char)) (rest : List Char) :
    enquoted pieces ++ rest = '"' :: (pieces.flatten ++ '"' :: rest) := by
  rw [enquoted, List.cons_append, List.append_assoc, List.singleton_append]

/-- A string starts with a quote. -/
theorem IsString.exists_eq_cons (h : IsString s) : ∃ body, s = '"' :: body := by
  obtain ⟨pieces, -, rfl⟩ := h
  exact ⟨_, rfl⟩

/-- A string that spells a text starts with a quote. -/
theorem Spells.exists_eq_cons {t : String} (h : Spells t s) : ∃ body, s = '"' :: body := by
  obtain ⟨pieces, -, rfl⟩ := h
  exact ⟨_, rfl⟩

/-- The lenient reading takes any string, and nothing behind it. -/
theorem IsString.exists_scanString_lenient (h : IsString ('"' :: s)) (rest : List Char) :
    ∃ t, scanString .lenient (s ++ rest) = .ok (t, rest) := by
  obtain ⟨pieces, hpieces, heq⟩ := h
  have hchars := enquoted_append pieces rest
  rw [← heq, List.cons_append] at hchars
  rw [(List.cons.inj hchars).2, scanString]
  refine exists_scanStringWithin_lenient hpieces ?_
  have := length_le_length_flatten fun piece hmem => (hpieces piece hmem).ne_nil
  rw [List.length_append]
  omega

/-- The exact reading takes the text that a string spells. -/
theorem Spells.scanString {t : String} (h : Spells t ('"' :: s)) (rest : List Char) :
    scanString .exact (s ++ rest) = .ok (t.toList, rest) := by
  obtain ⟨pieces, hpieces, heq⟩ := h
  have hchars := enquoted_append pieces rest
  rw [← heq, List.cons_append] at hchars
  rw [(List.cons.inj hchars).2, Json.scanString]
  refine scanStringWithin_exact hpieces ?_
  have hne : ∀ piece ∈ pieces, piece ≠ [] :=
    ((List.forall₂_and_left _ _).1 (hpieces.flip.imp fun _ _ hway => ⟨hway.ne_nil, hway⟩)).1
  have := length_le_length_flatten hne
  rw [hpieces.length_eq, List.length_append]
  omega

/-- What the exact reading takes of a string is the text that it spells, and nothing behind it. -/
theorem IsString.spells_of_scanString (h : IsString ('"' :: s))
    (hscan : Json.scanString .exact (s ++ rest) = .ok (t, r)) :
    r = rest ∧ Spells (String.ofList t) ('"' :: s) := by
  obtain ⟨pieces, hpieces, heq⟩ := h
  have hchars := enquoted_append pieces rest
  rw [← heq, List.cons_append] at hchars
  rw [(List.cons.inj hchars).2] at hscan
  obtain ⟨hr, ways, hways, hflatten⟩ := spells_of_scanStringWithin hpieces hscan
  refine ⟨hr, ways, ?_, ?_⟩
  · rwa [String.toList_ofList]
  · rw [heq, enquoted, enquoted, hflatten]

/-! ## Numbers -/

/-- Digits are read up to a character that is none. -/
theorem IsDigits.scanDigits (h : IsDigits s) (hrest : ∀ c ∈ rest.head?, c.isDigit = false) :
    scanDigits (s ++ rest) = .ok (s, rest) :=
  scanDigits_append h.1 h.2 hrest

/-- Digits start with a digit and no sign. -/
theorem IsDigits.isDigit_of_append_eq_cons (h : IsDigits s) (heq : s ++ rest = c :: r) :
    c.isDigit = true := by
  obtain ⟨d, s, rfl⟩ := List.exists_cons_of_ne_nil h.1
  cases heq
  exact h.2 c List.mem_cons_self

/-- A whole part is read up to a character that is no digit. -/
theorem IsWhole.exists_scanWhole (h : IsWhole s) (hrest : ∀ c ∈ rest.head?, c.isDigit = false) :
    ∃ n, scanWhole (s ++ rest) = .ok (n, rest) := by
  obtain ⟨hdigits, hzero⟩ := h
  by_cases hs : s = ['0']
  · subst hs
    refine ⟨0, ?_⟩
    cases rest with
    | nil => rfl
    | cons c rest =>
      change (if c.isDigit then _ else Except.ok (0, c :: rest)) = _
      exact if_neg (Bool.eq_false_iff.1 (hrest c rfl))
  · refine ⟨Nat.ofDigitChars 10 s 0, ?_⟩
    obtain ⟨c, s, rfl⟩ := List.exists_cons_of_ne_nil hdigits.1
    rw [scanWhole]
    · rw [hdigits.scanDigits hrest]
      rfl
    · intro rest heq
      rw [List.cons_append] at heq
      exact hs (hzero (congrArg some (List.cons.inj heq).1))

/-- No digit stands behind a whole part. -/
theorem IsFraction.head_not_isDigit (h : IsFraction s)
    (hrest : ∀ c ∈ rest.head?, c.isDigit = false) : ∀ c ∈ (s ++ rest).head?, c.isDigit = false := by
  cases h with
  | none => exact hrest
  | digits =>
    intro c hc
    cases hc
    rfl

/-- A fraction is read up to a character that is neither a point nor a digit. -/
theorem IsFraction.exists_scanFraction (h : IsFraction s)
    (hrest : ∀ c ∈ rest.head?, c.isDigit = false ∧ c ≠ '.') :
    ∃ digits, scanFraction (s ++ rest) = .ok (digits, rest) := by
  cases h with
  | none =>
    refine ⟨[], ?_⟩
    rw [List.nil_append, scanFraction]
    intro r heq
    subst heq
    exact (hrest '.' rfl).2 rfl
  | digits h => exact ⟨_, h.scanDigits fun c hc => (hrest c hc).1⟩

/-- Behind a fraction neither a point nor a digit stands. -/
theorem IsExponent.head_not_isDigit (h : IsExponent s) (hrest : EndsNumber rest) :
    ∀ c ∈ (s ++ rest).head?, c.isDigit = false ∧ c ≠ '.' := by
  intro c hc
  cases h with
  | none =>
    have hends := hrest c hc
    simp only [continuesNumber, Bool.or_eq_false_iff, decide_eq_false_iff_not] at hends
    exact ⟨hends.1.1.1, hends.1.1.2⟩
  | digits hmark =>
    cases hc
    rw [List.mem_cons, List.mem_singleton] at hmark
    rcases hmark with rfl | rfl <;> decide

/-- An exponent is read up to where the number ends. -/
theorem IsExponent.exists_scanExponent (h : IsExponent s) (hrest : EndsNumber rest) :
    ∃ n, scanExponent (s ++ rest) = .ok (n, rest) := by
  cases h with
  | none => exact ⟨Option.none, scanExponent_of_endsNumber hrest⟩
  | @digits mark sign s hmark hsign h =>
    have hdigits := h.scanDigits fun c hc => Bool.eq_false_iff.2 (Json.head_not_isDigit hrest c hc)
    have hread : ∃ n, scanExponentDigits (sign ++ (s ++ rest)) = .ok (n, rest) := by
      simp only [List.mem_cons, List.not_mem_nil, or_false] at hsign
      rcases hsign with rfl | rfl | rfl
      · rw [List.nil_append, scanExponentDigits, hdigits]
        · exact ⟨_, rfl⟩
        · exact fun r heq => absurd (h.isDigit_of_append_eq_cons heq) (by decide)
        · exact fun r heq => absurd (h.isDigit_of_append_eq_cons heq) (by decide)
      · rw [List.cons_append, List.nil_append, scanExponentDigits, hdigits]
        exact ⟨_, rfl⟩
      · rw [List.cons_append, List.nil_append, scanExponentDigits, hdigits]
        exact ⟨_, rfl⟩
    obtain ⟨n, hn⟩ := hread
    have hletter : (decide (mark = 'e') || decide (mark = 'E')) = true := by
      rw [List.mem_cons, List.mem_singleton] at hmark
      rcases hmark with rfl | rfl <;> rfl
    refine ⟨some n, ?_⟩
    rw [List.cons_append, List.append_assoc, scanExponent, if_pos hletter, hn]
    rfl

/-- A number is read up to its end. -/
theorem IsNumber.exists_scanNumber (h : IsNumber s) (hrest : EndsNumber rest) :
    ∃ n, scanNumber (s ++ rest) = .ok (n, rest) := by
  obtain ⟨sign, whole, fraction, exponent, hsign, hwhole, hfraction, hexponent, rfl⟩ := h
  have hpoint := hexponent.head_not_isDigit hrest
  obtain ⟨n, hn⟩ := hwhole.exists_scanWhole
    (hfraction.head_not_isDigit fun c hc => (hpoint c hc).1)
  obtain ⟨digits, hdigits⟩ := hfraction.exists_scanFraction hpoint
  obtain ⟨e, he⟩ := hexponent.exists_scanExponent hrest
  simp only [List.append_assoc]
  rw [List.mem_cons, List.mem_singleton] at hsign
  rcases hsign with rfl | rfl
  · refine ⟨⟨false, n, digits, e⟩, ?_⟩
    rw [List.nil_append, scanNumber]
    · simp only [bind, Except.bind, hn, hdigits, he]
      rfl
    · exact fun r heq => absurd (hwhole.1.isDigit_of_append_eq_cons heq) (by decide)
  · refine ⟨⟨true, n, digits, e⟩, ?_⟩
    rw [List.cons_append, List.nil_append, scanNumber]
    simp only [bind, Except.bind, hn, hdigits, he]
    rfl

end ODataSession.Json
