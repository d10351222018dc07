import Mathlib.Data.List.Forall2
import ODataSession.Session.Slot

/-!
# Choices of slots

A lawful source of random numbers draws below the bound that it is given, as the generator in use
does (`Generator.below_lt`). So a slot is chosen inside its pool, and the choice fails only for a
slot that was named (`Slot.Wish.choose_eq`). Of choices on one source only those that draw move it:
the others can be left out without a trace (`Slot.choosesWithin`).
-/

namespace ODataSession

/-! ## Draws -/

/-- Sources whose numbers are below their bounds. -/
class LawfulSource (γ : Type) extends RandomSource γ where
  below_lt : ∀ {n : UInt64}, 0 < n → ∀ g : γ, (below n g).1 < n

namespace Generator

variable {n : UInt64}

/-- The upper half of a product fits into a half. -/
theorem toNat_highProduct (a b : UInt64) :
    (highProduct a b).toNat = a.toNat * b.toNat / UInt64.size := by
  have hproduct : a.toNat * b.toNat < UInt64.size * UInt64.size :=
    Nat.mul_lt_mul'' a.toNat_lt_size b.toNat_lt_size
  exact UInt64.toNat_ofNat_of_lt' (Nat.div_lt_of_lt_mul hproduct)

/-- The upper half of a product is below each of its factors. -/
theorem highProduct_lt (r : UInt64) (hn : 0 < n) : highProduct r n < n := by
  rw [UInt64.lt_iff_toNat_lt, toNat_highProduct]
  have hn' : 0 < n.toNat := UInt64.lt_iff_toNat_lt.1 hn
  exact Nat.div_lt_of_lt_mul (Nat.mul_lt_mul_of_pos_right r.toNat_lt_size hn')

/-- However often it is drawn, the number is below its bound. -/
theorem drawBelow_lt (hn : 0 < n) (least : UInt64) (fuel : Nat) (g : Generator) :
    (drawBelow n least fuel g).1 < n := by
  induction fuel generalizing g with
  | zero => exact hn
  | succ fuel ih =>
    simp only [drawBelow]
    split
    · exact ih _
    · exact highProduct_lt _ hn

/-- A number that is drawn below a bound is below it. -/
theorem below_lt (hn : 0 < n) (g : Generator) : (below n g).1 < n :=
  drawBelow_lt hn _ _ g

instance : LawfulSource Generator where
  below_lt := below_lt

end Generator

/-! ## One choice -/

namespace Slot

/-- What a choice of a slot is made from. -/
structure Wish where
  explicit : Option UInt64
  configured : Option UInt64
  poolSize : UInt64

namespace Wish

section
variable {γ : Type} [RandomSource γ]

/-- The slot that is named; the explicit one comes first. -/
def named? (w : Wish) : Option UInt64 :=
  w.explicit <|> w.configured

/-- Whether the slot has to be drawn: none is named, and there is more than one. -/
def draws (w : Wish) : Bool :=
  w.named?.isNone && 1 < w.poolSize

/-- The slot that is named or drawn, or else the only one. -/
def slot (w : Wish) (g : γ) : UInt64 :=
  w.named?.getD (if 1 < w.poolSize then (RandomSource.below w.poolSize g).1 else 0)

/-- Chooses a slot. -/
def choose (w : Wish) (g : γ) : Except ConfigError UInt64 × γ :=
  Slot.choose w.explicit w.configured w.poolSize g

/-- The number of slots to choose from; an empty pool counts as a pool of one. -/
def size (w : Wish) : UInt64 :=
  max w.poolSize 1

/-- A pool with more than one slot is as large as it is. -/
theorem size_of_lt {w : Wish} (h : 1 < w.poolSize) : w.size = w.poolSize :=
  if_neg (UInt64.not_le.2 h)

/-- Any other pool is a pool of one. -/
theorem size_of_not_lt {w : Wish} (h : ¬1 < w.poolSize) : w.size = 1 :=
  if_pos (UInt64.not_lt.1 h)

/-- A choice is refused if the slot lies outside the pool, and moves the source if the slot is
drawn. -/
theorem choose_eq (w : Wish) (g : γ) : w.choose g =
    (if w.size ≤ w.slot g then .error (.chosenSlot (w.slot g) w.size) else .ok (w.slot g),
      if w.draws then (RandomSource.below w.poolSize g).2 else g) := by
  rw [choose, Slot.choose, slot, draws, named?, ← size]
  cases w.explicit <|> w.configured with
  | some slot => simp
  | none =>
    by_cases hpool : 1 < w.poolSize
    · simp [hpool, size_of_lt hpool]
    · simp [hpool, size_of_not_lt hpool]

/-- A slot that is chosen lies inside the pool. -/
theorem lt_of_choose_eq_ok {w : Wish} {g : γ} {slot : UInt64}
    (h : (w.choose g).1 = .ok slot) : slot < w.size := by
  rw [choose_eq] at h
  dsimp only at h
  split at h
  · cases h
  · next hslot =>
    obtain rfl := Except.ok.inj h
    exact UInt64.not_le.1 hslot

/-- Only a slot that is drawn moves the source. -/
theorem source_of_not_draws {w : Wish} (h : w.draws = false) (g : γ) : (w.choose g).2 = g := by
  rw [choose_eq, h]
  rfl

end

/-- A slot that is not named lies inside the pool, if it is drawn from a lawful source. -/
theorem slot_lt {γ : Type} [LawfulSource γ] {w : Wish} (h : w.named? = none) (g : γ) :
    w.slot g < w.size := by
  rw [slot, h, Option.getD_none]
  by_cases hpool : 1 < w.poolSize
  · rw [if_pos hpool, size_of_lt hpool]
    exact LawfulSource.below_lt (UInt64.lt_trans (by decide) hpool) g
  · rw [if_neg hpool, size_of_not_lt hpool]
    decide

end Wish

/-! ## Many choices -/

section
variable {γ : Type} [RandomSource γ]

/-- Choices that are made one after the other on one source. -/
def chooseAll : List Wish → γ → List (Except ConfigError UInt64) × γ
  | [], g => ([], g)
  | w :: wishes, g =>
    let (result, g) := w.choose g
    let (results, g) := chooseAll wishes g
    (result :: results, g)

/-- The choices of two rounds are those of the first one and then those of the second one. -/
theorem chooseAll_append (wishes wishes' : List Wish) (g : γ) :
    chooseAll (wishes ++ wishes') g = ((chooseAll wishes g).1 ++
      (chooseAll wishes' (chooseAll wishes g).2).1, (chooseAll wishes' (chooseAll wishes g).2).2) := by
  induction wishes generalizing g with
  | nil => rfl
  | cons w wishes ih => simp only [List.cons_append, chooseAll, ih]

/-- What comes of choices on one source: whatever is chosen lies inside its pool, and the
source is moved by those choices alone that draw. -/
structure ChoosesWithin (wishes : List Wish) (g : γ) : Prop where
  slot_lt : List.Forall₂ (fun w result => ∀ slot, result = .ok slot → slot < w.size) wishes
    (chooseAll wishes g).1
  unmoved : ∀ before w behind, wishes = before ++ w :: behind → w.draws = false →
    (chooseAll (before ++ [w]) g).2 = (chooseAll before g).2
  moved_by_draws : (chooseAll wishes g).2 = (chooseAll (wishes.filter (·.draws)) g).2

/-- Every list of choices on any source stays inside the pools. -/
theorem choosesWithin (wishes : List Wish) (g : γ) : ChoosesWithin wishes g := by
  refine ⟨?_, ?_, ?_⟩
  · induction wishes generalizing g with
    | nil => exact .nil
    | cons w wishes ih => exact .cons (fun _ => w.lt_of_choose_eq_ok) (ih _)
  · rintro before w behind - hdraws
    rw [chooseAll_append]
    exact w.source_of_not_draws hdraws _
  · induction wishes generalizing g with
    | nil => rfl
    | cons w wishes ih =>
      have hbehind : (chooseAll (w :: wishes) g).2 = (chooseAll wishes (w.choose g).2).2 := rfl
      cases hdraws : w.draws with
      | true =>
        rw [List.filter_cons_of_pos hdraws, hbehind, ih]
        rfl
      | false =>
        rw [List.filter_cons_of_neg (by simp [hdraws]), hbehind, ih,
          w.source_of_not_draws hdraws]

end

end Slot

end ODataSession
