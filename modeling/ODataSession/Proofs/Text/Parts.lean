import Mathlib.Data.List.DropRight
import ODataSession.Text.Blank
import ODataSession.Text.Split

/-!
# Stretches of texts, cutting and trimming

A stretch of a class of characters in front of a text ends where the text goes on with another one
(`Text.takeWhile_dropWhile_append`). Texts without a mark are got back by cutting the text that has
the mark between them (`Text.splitOn_intercalate`). Trimming takes characters of its class away at
both ends of a text and leaves what is between them (`Text.exists_append_trimBy`), so that nothing
is left for a second trimming (`Text.trimBy_trimBy`).
-/

namespace ODataSession.Text

variable {p : Char → Bool} {s rest : List Char}

/-! ## Stretches -/

/-- A stretch of a class is taken off a text that goes on with another character, or not at all. -/
theorem takeWhile_dropWhile_append (hs : ∀ c ∈ s, p c = true)
    (hrest : ∀ c ∈ rest.head?, p c = false) :
    (s ++ rest).takeWhile p = s ∧ (s ++ rest).dropWhile p = rest := by
  rw [List.takeWhile_append_of_pos hs, List.dropWhile_append_of_pos hs]
  cases rest with
  | nil => exact ⟨List.append_nil s, rfl⟩
  | cons c rest => simp [hrest c rfl]

/-- What stands in front of the first mark of a text, and the text from the mark on. -/
theorem takeWhile_dropWhile_ne_append {mark : Char} (h : mark ∉ s) (rest : List Char) :
    (s ++ mark :: rest).takeWhile (· ≠ mark) = s ∧
      (s ++ mark :: rest).dropWhile (· ≠ mark) = mark :: rest := by
  refine takeWhile_dropWhile_append (fun c hc => ?_) fun c hc => ?_
  · exact decide_eq_true (ne_of_mem_of_not_mem hc h)
  · rw [Option.mem_some_iff.1 hc]
    simp

/-! ## Cutting -/

/-- Cutting at the characters of a class is splitting at them. -/
theorem splitOn_eq_splitOnP (separates : Char → Bool) (s : List Char) :
    splitOn separates s = s.splitOnP separates := by
  induction s with
  | nil => rfl
  | cons c s ih =>
    rw [splitOn, List.splitOnP_cons_eq_if_modifyHead, ih]
    split
    · rfl
    · cases hs : s.splitOnP separates with
      | nil => exact absurd hs (List.splitOnP_ne_nil _ _)
      | cons part parts => rfl

/-- Texts without a mark are what a text is cut into that has the mark between them. -/
theorem splitOn_intercalate {mark : Char} {parts : List (List Char)} (hne : parts ≠ [])
    (h : ∀ part ∈ parts, mark ∉ part) :
    splitOn (· = mark) ([mark].intercalate parts) = parts := by
  have hclass : (fun c : Char => decide (c = mark)) = (· == mark) := rfl
  rw [splitOn_eq_splitOnP, hclass]
  exact List.splitOn_intercalate mark h hne

/-- What joins texts and what is joined is all that there is in the whole. -/
theorem mem_of_mem_intercalate {sep : List Char} {a : Char} : ∀ {texts : List (List Char)},
    a ∈ sep.intercalate texts → a ∈ sep ∨ ∃ text ∈ texts, a ∈ text
  | [], h => by cases h
  | [text], h => by
    rw [List.intercalate_singleton] at h
    exact .inr ⟨text, List.mem_singleton_self text, h⟩
  | text :: text' :: texts, h => by
    rw [List.intercalate_cons_cons, List.mem_append, List.mem_append] at h
    rcases h with (h | h) | h
    · exact .inr ⟨text, List.mem_cons_self, h⟩
    · exact .inl h
    · obtain h | ⟨text'', hmem, h⟩ := mem_of_mem_intercalate h
      · exact .inl h
      · exact .inr ⟨text'', List.mem_cons_of_mem _ hmem, h⟩

/-! ## Trimming -/

/-- Trimming puts no character in. -/
theorem mem_of_mem_trimBy {a : Char} (h : a ∈ trimBy p s) : a ∈ s := by
  have hrest := (List.dropWhile_suffix p).subset (List.mem_reverse.1 h)
  exact (List.dropWhile_suffix p).subset (List.mem_reverse.1 hrest)

/-- Nothing is trimmed where neither end is of the class. -/
theorem trimBy_of_not {first last : Char} (hfirst : p first = false) (hlast : p last = false)
    (s : List Char) : trimBy p (first :: (s ++ [last])) = first :: (s ++ [last]) := by
  simp [trimBy, hfirst, hlast]

/-- Nothing is trimmed of a text without characters of the class. -/
theorem trimBy_of_forall_not (h : ∀ c ∈ s, p c = false) : trimBy p s = s := by
  have hkept : ∀ t : List Char, (∀ c ∈ t, p c = false) → t.dropWhile p = t := by
    intro t ht
    cases t with
    | nil => rfl
    | cons c t => exact List.dropWhile_cons_of_neg (Bool.eq_false_iff.1 (ht c List.mem_cons_self))
  rw [trimBy, hkept s h, hkept _ fun c hc => h c (List.mem_reverse.1 hc), List.reverse_reverse]

/-- A text that does not end in the class keeps its end. -/
theorem trimBy_concat_of_not {last : Char} (hlast : p last = false) (s : List Char) :
    trimBy p (s ++ [last]) = s.dropWhile p ++ [last] := by
  have hfront : (s ++ [last]).dropWhile p = s.dropWhile p ++ [last] := by
    rw [List.dropWhile_append]
    split
    · next hs => simp [hlast, List.isEmpty_iff.1 hs]
    · rfl
  rw [trimBy, hfront, List.reverse_concat, List.dropWhile_cons_of_neg (by simp [hlast]),
    List.reverse_cons, List.reverse_reverse]

/-- A character of the class in front of a text is trimmed. -/
theorem trimBy_cons_of_pos {c : Char} (h : p c = true) (s : List Char) :
    trimBy p (c :: s) = trimBy p s := by
  rw [trimBy, List.dropWhile_cons_of_pos h, trimBy]

/-- A text is what trimming leaves of it, between characters of the class. -/
theorem exists_append_trimBy (p : Char → Bool) (s : List Char) :
    ∃ front back, s = front ++ (trimBy p s ++ back) ∧
      (∀ c ∈ front, p c = true) ∧ ∀ c ∈ back, p c = true := by
  refine ⟨s.takeWhile p, (s.dropWhile p).rtakeWhile p, ?_, fun _ => List.mem_takeWhile_imp,
    fun _ => List.mem_rtakeWhile_imp⟩
  have hback : trimBy p s ++ (s.dropWhile p).rtakeWhile p = s.dropWhile p :=
    List.rdropWhile_append_rtakeWhile
  rw [hback, List.takeWhile_append_dropWhile]

/-- There is nothing to trim in what has been trimmed. -/
theorem trimBy_trimBy (p : Char → Bool) (s : List Char) : trimBy p (trimBy p s) = trimBy p s := by
  have hfront : (trimBy p s).dropWhile p = trimBy p s := by
    cases htrim : trimBy p s with
    | nil => rfl
    | cons c rest =>
      -- The first character that is left is the first one outside the class.
      have hprefix : trimBy p s <+: s.dropWhile p := List.rdropWhile_prefix p _
      rw [htrim] at hprefix
      obtain ⟨back, hback⟩ := hprefix
      have hc := List.head?_dropWhile_not p s
      rw [← hback] at hc
      exact List.dropWhile_cons_of_neg (Bool.eq_false_iff.1 hc)
  calc trimBy p (trimBy p s) = ((trimBy p s).dropWhile p).rdropWhile p := rfl
    _ = ((s.dropWhile p).rdropWhile p).rdropWhile p := by rw [hfront]; rfl
    _ = trimBy p s := List.rdropWhile_idempotent p _

end ODataSession.Text
