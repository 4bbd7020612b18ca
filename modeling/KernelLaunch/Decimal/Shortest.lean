import KernelLaunch.Binary.Format

/-! The shortest decimal of a floating-point number: among the decimals that round to the number,
one with the fewest digits, and of those the nearest. Grids of decimals are tried from coarse to
fine, in exact arithmetic; on a grid only the two neighbours of the number can be candidates. -/

namespace KernelLaunch

structure Decimal where
  digits : Nat
  exponent : Int
  deriving DecidableEq

/-- The numbers that round to a finite magnitude, in quarters of the unit of its last place. The
ends belong to it when the significand is even. -/
structure RoundingInterval where
  lowest : Nat
  middle : Nat
  highest : Nat
  /-- The exponent of a quarter. -/
  exponent : Int
  closed : Bool

namespace RoundingInterval

/-- Below a power of two the neighbour is half as far away, except among the smallest numbers. -/
def of (precision : Precision) (number : Scaled) : RoundingInterval :=
  let middle := 4 * number.significand
  let nearBelow := number.significand = 1 <<< precision.fractionBits
    ∧ precision.leastExponent < number.exponent
  { lowest := middle - if nearBelow then 1 else 2
    middle
    highest := middle + 2
    exponent := number.exponent - 2
    closed := number.significand % 2 = 0 }

/-- Quarters and decimals of a grid in a common integral unit: the factor for quarters and the
factor for decimals. -/
def factors (interval : RoundingInterval) (grid : Int) : Nat × Nat :=
  (Nat.pow 10 (-grid).toNat <<< interval.exponent.toNat,
    Nat.pow 10 grid.toNat <<< (-interval.exponent).toNat)

def contains (interval : RoundingInterval) (grid : Int) (digits : Nat) : Bool :=
  let (quarter, step) := interval.factors grid
  let decimal := digits * step
  if interval.closed then
    interval.lowest * quarter ≤ decimal ∧ decimal ≤ interval.highest * quarter
  else interval.lowest * quarter < decimal ∧ decimal < interval.highest * quarter

/-- The nearest decimal of a grid that rounds to the number, if any; of two as near, the larger. -/
def onGrid? (interval : RoundingInterval) (grid : Int) : Option Decimal :=
  let (quarter, step) := interval.factors grid
  let middle := interval.middle * quarter
  let below := middle / step
  let nearerBelow := 2 * (middle % step) < step
  match interval.contains grid below, interval.contains grid (below + 1) with
  | true, true => some ⟨if nearerBelow then below else below + 1, grid⟩
  | true, false => some ⟨below, grid⟩
  | false, true => some ⟨below + 1, grid⟩
  | false, false => none

/-- The first of `count` grids, each ten times finer than the one before, that holds a decimal. -/
def onGrids? (interval : RoundingInterval) : (count : Nat) → (grid : Int) → Option Decimal
  | 0, _ => none
  | count + 1, grid => (interval.onGrid? grid).orElse fun _ => interval.onGrids? count (grid - 1)

end RoundingInterval

/-- A power of ten above every number with this many bits before the binary point. The slope is a
little more than the logarithm of two. -/
def gridAbove (bits : Int) : Int := max (bits * 1233 / 4096) (bits * 1234 / 4096) + 1

/-- The shortest decimal of a positive number. These grids suffice: the first lies above the
number, and the grid of its seventeenth digit always holds a decimal. -/
def shortestDecimal (precision : Precision) (number : Scaled) : Decimal :=
  let interval := RoundingInterval.of precision number
  let top := gridAbove (bitLength number.significand + number.exponent)
  (interval.onGrids? 24 top).getD ⟨0, 0⟩

namespace Decimal

/-- The decimal in positional notation, without an exponent however large or small it is. -/
def positional (decimal : Decimal) : String :=
  let digits := toString decimal.digits
  if 0 ≤ decimal.exponent then digits ++ String.ofList (List.replicate decimal.exponent.toNat '0')
  else
    let places := (-decimal.exponent).toNat
    let padded := List.replicate (places + 1 - digits.length) '0' ++ digits.toList
    let whole := padded.length - places
    String.ofList (padded.take whole) ++ "." ++ String.ofList (padded.drop whole)

end Decimal

/-- A floating-point number as text: its shortest decimal in positional notation. -/
def FloatBits.text {precision : Precision} (bits : FloatBits precision) : String :=
  let sign := if bits.isNegative then "-" else ""
  if bits.isNaN then "NaN"
  else if !bits.isFinite then sign ++ "inf"
  else if bits.magnitude = 0 then sign ++ "0"
  else sign ++ (shortestDecimal precision (precision.value bits.magnitude)).positional

end KernelLaunch
