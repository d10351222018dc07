/-!
# Shortest decimals

The fewest decimal digits that read back as a given binary number, and among those the nearest to
it; which of two equally near ones is taken is up to the caller. A binary number is surrounded by
the reals that round to it, `Interval`; a grid of decimals `c · 10 ^ k` hits the interval exactly
when one of the two grid points next to the number does, so `shortest` tries the grids of one digit,
two digits and so on, and keeps the nearer of two hits. All comparisons are made between natural
numbers.
-/

namespace ODataSession.Decimal

/-- Which of two equally near decimals is taken. -/
inductive Tie
  /-- The greater one. -/
  | up
  /-- The one whose last digit is even. -/
  | toEven
  deriving DecidableEq, Repr, Inhabited

/-- A positive binary number `middle · 2 ^ unit` between the ends of the reals that round to it;
the ends themselves round to it when `closed`. -/
structure Interval where
  low : Nat
  middle : Nat
  high : Nat
  unit : Int
  closed : Bool

/-- A decimal `digits · 10 ^ exponent`. -/
structure Scientific where
  digits : Nat
  exponent : Int
  deriving DecidableEq, Repr

/-- The power of two or ten that a factor with a non-negative exponent contributes. -/
def power (base : Nat) (e : Int) : Nat :=
  base.pow e.toNat

namespace Interval

/-- The factor that turns `c · 10 ^ k` into the scale of `scaled`. -/
def gridFactor (i : Interval) (k : Int) : Nat :=
  power 10 k * power 2 (-i.unit)

/-- The factor that turns a multiple of `2 ^ unit` into the scale shared with the grid at `k`. -/
def unitFactor (i : Interval) (k : Int) : Nat :=
  power 10 (-k) * power 2 i.unit

/-- Whether the grid point `c · 10 ^ k` rounds to the number. -/
def contains (i : Interval) (k : Int) (c : Nat) : Bool :=
  let point := c * i.gridFactor k
  let low := i.low * i.unitFactor k
  let high := i.high * i.unitFactor k
  if i.closed then low ≤ point && point ≤ high else low < point && point < high

/-- The grid point at or below the number. -/
def floorOn (i : Interval) (k : Int) : Nat :=
  i.middle * i.unitFactor k / i.gridFactor k

/-- Whether the grid point above the number is taken and not the one at or below it. -/
def prefersUpper (i : Interval) (tie : Tie) (k : Int) : Bool :=
  let rest := i.middle * i.unitFactor k % i.gridFactor k
  if 2 * rest = i.gridFactor k then tie = .up || i.floorOn k % 2 = 1
  else i.gridFactor k < 2 * rest

/-- The nearest grid point that rounds to the number, if one does. -/
def hit? (i : Interval) (tie : Tie) (k : Int) : Option Nat :=
  let c := i.floorOn k
  match i.contains k c, i.contains k (c + 1) with
  | true, true => some (if i.prefersUpper tie k then c + 1 else c)
  | true, false => some c
  | false, true => some (c + 1)
  | false, false => none

/-- The exponent of the coarsest grid worth trying, the first whose spacing exceeds the number:
it is hit only where the number rounds up to a power of ten. -/
def coarsestExponent (i : Interval) : Int :=
  let num := i.middle * power 2 i.unit
  let den := power 2 (-i.unit)
  let guess : Int := (Nat.toDigits 10 num).length - (Nat.toDigits 10 den).length
  if num * power 10 (-guess) < den * power 10 guess then guess else guess + 1

/-- Tries `fuel` grids, each ten times finer than the last, from `k` on. -/
def search (i : Interval) (tie : Tie) : Nat → Int → Scientific
  | 0, k => ⟨i.floorOn k, k⟩
  | fuel + 1, k =>
    match i.hit? tie k with
    | some c => ⟨c, k⟩
    | none => i.search tie fuel (k - 1)

/-- The shortest decimal that rounds to the number; seventeen digits always suffice for a
double. -/
def shortest (i : Interval) (tie : Tie) : Scientific :=
  i.search tie 18 i.coarsestExponent

end Interval

/-- A double as its sign and kind. -/
inductive Double
  | nan
  | infinite (negative : Bool)
  | zero (negative : Bool)
  /-- A finite number other than zero, with the interval of its magnitude. -/
  | finite (negative : Bool) (magnitude : Interval)

/-- The interval of `significand · 2 ^ exponent`; below the least significand of a binade the gap
is half as wide, which `narrow` says. -/
def Interval.ofBinary (significand : Nat) (exponent : Int) (narrow : Bool) : Interval where
  low := 4 * significand - (if narrow then 1 else 2)
  middle := 4 * significand
  high := 4 * significand + 2
  unit := exponent - 2
  closed := significand % 2 = 0

/-- Reads the sign, the exponent and the fraction of a 64-bit pattern. -/
def Double.ofBits (bits : UInt64) : Double :=
  let negative := bits >>> 63 = 1
  let exponent : Nat := (bits.toNat >>> 52) % 0x800
  let fraction : Nat := bits.toNat % 0x10000000000000
  if exponent = 0x7ff then
    if fraction = 0 then .infinite negative else .nan
  else if exponent = 0 then
    if fraction = 0 then .zero negative
    else .finite negative (.ofBinary fraction (-1074) false)
  else
    .finite negative (.ofBinary (0x10000000000000 + fraction) (exponent - 1075)
      (fraction = 0 && 1 < exponent))

/-- A decimal without an exponent: zeros fill up to the point, or a point cuts the digits. -/
def Scientific.positional (s : Scientific) : List Char :=
  let digits := Nat.toDigits 10 s.digits
  if 0 ≤ s.exponent then
    digits ++ List.replicate s.exponent.toNat '0'
  else
    let places := (-s.exponent).toNat
    let padded := List.replicate (places + 1 - digits.length) '0' ++ digits
    padded.take (padded.length - places) ++ '.' :: padded.drop (padded.length - places)

/-- A minus sign in front of a negative number's text. -/
def signed (negative : Bool) (text : List Char) : List Char :=
  if negative then '-' :: text else text

/-- The plain text of a double: its shortest digits, never an exponent, no point behind a whole
number, and words for the values that have no digits. A tie goes up. -/
def Double.plain : Double → List Char
  | .nan => "NaN".toList
  | .infinite negative => signed negative "inf".toList
  | .zero negative => signed negative ['0']
  | .finite negative magnitude => signed negative (magnitude.shortest .up).positional

/-- The plain text of a floating-point number. -/
def plainText (x : Float) : String :=
  String.ofList (Double.ofBits x.toBits).plain

end ODataSession.Decimal
