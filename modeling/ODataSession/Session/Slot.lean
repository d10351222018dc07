import ODataSession.Config.Error

/-!
# Slots

The choice of the slot that a client uses. A slot that is given explicitly comes first, then the
configured one; without either a slot of the pool is drawn from a source of random numbers. The
source in use is a counter with an odd step whose values are mixed by a product of 128 bits, so that
a seed determines all draws.
-/

namespace ODataSession

/-- Sources of random numbers. -/
class RandomSource (γ : Type) where
  /-- The source of a seed. -/
  ofSeed : UInt64 → γ
  /-- Draws a number below a bound. -/
  below : UInt64 → γ → UInt64 × γ

/-- A generator of random numbers. -/
structure Generator where
  state : UInt64
  deriving DecidableEq, Repr, Inhabited

namespace Generator

/-- The generator of a seed. -/
def ofSeed (seed : UInt64) : Generator := ⟨seed⟩

/-- The upper half of a product. -/
def highProduct (a b : UInt64) : UInt64 :=
  UInt64.ofNat (a.toNat * b.toNat / UInt64.size)

/-- The step of the counter. -/
def step : UInt64 := 0x2d358dccaa6c78a5

/-- The mask of the second factor. -/
def mask : UInt64 := 0x8bb84b93962eacc9

/-- Draws a number of 64 bits. -/
def next (g : Generator) : UInt64 × Generator :=
  let s := g.state + step
  ((s * (s ^^^ mask)) ^^^ highProduct s (s ^^^ mask), ⟨s⟩)

/-- Draws until the lower half of the product with `n` reaches `least`; the upper half is then
equally likely for every value below `n`. The fuel is the number of states, each of which
the counter meets before it comes round. -/
def drawBelow (n least : UInt64) : Nat → Generator → UInt64 × Generator
  | 0, g => (0, g)
  | fuel + 1, g =>
    let (r, g) := g.next
    if r * n < least then drawBelow n least fuel g else (highProduct r n, g)

/-- Draws a number below `n`. -/
def below (n : UInt64) (g : Generator) : UInt64 × Generator :=
  drawBelow n ((0 - n) % n) UInt64.size g

instance : RandomSource Generator := ⟨ofSeed, below⟩

end Generator

namespace Slot

/-- Chooses a slot of a pool; an empty pool counts as a pool of one. -/
def choose {γ : Type} [RandomSource γ] (explicit configured : Option UInt64) (poolSize : UInt64)
    (g : γ) : Except ConfigError UInt64 × γ :=
  let size := max poolSize 1
  let (slot, g) := match explicit <|> configured with
    | some slot => (slot, g)
    | none => if 1 < size then RandomSource.below size g else (0, g)
  (if size ≤ slot then .error (.chosenSlot slot size) else .ok slot, g)

end Slot

end ODataSession
