/-!
# Splitting

Cutting a text at every character of a class. A text always has at least one part, and putting
the parts back together with the separators between them gives the text again.
-/

namespace ODataSession.Text

/-- Puts a character in front of the first part. -/
def consFirst (c : Char) : List (List Char) → List (List Char)
  | [] => [[c]]
  | part :: parts => (c :: part) :: parts

/-- The parts of a text between the separators. -/
def splitOn (separates : Char → Bool) : List Char → List (List Char)
  | [] => [[]]
  | c :: rest =>
    if separates c then [] :: splitOn separates rest else consFirst c (splitOn separates rest)

/-- A text has at least one part. -/
theorem splitOn_ne_nil (separates : Char → Bool) (s : List Char) : splitOn separates s ≠ [] := by
  cases s with
  | nil => simp [splitOn]
  | cons c s =>
    simp only [splitOn]
    split
    · simp
    · cases splitOn separates s <;> simp [consFirst]

/-- A text without separators is its only part. -/
theorem splitOn_of_forall_not {separates : Char → Bool} {s : List Char}
    (h : ∀ c ∈ s, separates c = false) : splitOn separates s = [s] := by
  induction s with
  | nil => rfl
  | cons c s ih =>
    simp only [List.mem_cons, forall_eq_or_imp] at h
    simp [splitOn, h.1, ih h.2, consFirst]

/-- No part holds a separator. -/
theorem not_separates_of_mem_splitOn {separates : Char → Bool} {s part : List Char}
    (h : part ∈ splitOn separates s) {c : Char} (hc : c ∈ part) : separates c = false := by
  induction s generalizing part with
  | nil =>
    simp only [splitOn, List.mem_singleton] at h
    simp [h] at hc
  | cons d s ih =>
    simp only [splitOn] at h
    split at h
    · rcases List.mem_cons.1 h with rfl | h
      · simp at hc
      · exact ih h hc
    · next hd =>
      cases hs : splitOn separates s with
      | nil => exact absurd hs (splitOn_ne_nil _ _)
      | cons first parts =>
        rw [hs] at h ih
        simp only [consFirst, List.mem_cons] at h
        rcases h with rfl | h
        · rcases List.mem_cons.1 hc with rfl | hc
          · simpa using hd
          · exact ih (List.mem_cons_self ..) hc
        · exact ih (List.mem_cons_of_mem _ h) hc

end ODataSession.Text
