import KernelLaunch.Scalar

/-! The two binary floating-point formats as exact arithmetic on bit patterns. The magnitude of a
pattern, read as a number, grows with the value it stands for; the number just above the largest
finite magnitude stands for infinity and all above it for NaNs. -/

namespace KernelLaunch

structure Scaled where
  significand : Nat
  exponent : Int
  deriving DecidableEq

/-- Digits of a number in base two; zero has none. -/
def bitLength (number : Nat) : Nat := if number = 0 then 0 else Nat.log2 number + 1

/-- The quotient by a power of two, rounded to nearest; a half goes to the even neighbour. -/
def halveToEven (number places : Nat) : Nat :=
  let unit := 1 <<< places
  let quotient := number / unit
  let twice := 2 * (number % unit)
  if unit < twice ∨ (twice = unit ∧ quotient % 2 = 1) then quotient + 1 else quotient

namespace Precision

/-- Bits of a pattern below the exponent field. -/
def fractionBits (precision : Precision) : Nat := precision.digits - 1

/-- The magnitude that stands for infinity: an exponent field of ones above an empty fraction. -/
def infinity (precision : Precision) : Nat :=
  1 <<< (precision.width - 1) - 1 <<< precision.fractionBits

/-- The magnitude of the NaN with the given fraction, made quiet. -/
def quietNaN (precision : Precision) (fraction : Nat) : Nat :=
  precision.infinity + (fraction ||| 1 <<< (precision.fractionBits - 1))

def value (precision : Precision) (magnitude : Nat) : Scaled :=
  let unit := 1 <<< precision.fractionBits
  if magnitude < unit then ⟨magnitude, precision.leastExponent⟩
  else ⟨unit + magnitude % unit, precision.leastExponent + (magnitude / unit : Nat) - 1⟩

/-- How many low bits of a number the format cannot keep; negative when it has bits to spare. -/
def excessBits (precision : Precision) (number : Scaled) : Int :=
  max (bitLength number.significand - precision.digits) (precision.leastExponent - number.exponent)

/-- The magnitude nearest to a number, a half going to the even neighbour, and infinity from half
a unit above the largest finite magnitude. A significand that rounds up to the next power of two
carries into the exponent field, which is the pattern of that power. -/
def round (precision : Precision) (number : Scaled) : Nat :=
  if number.significand = 0 then 0
  else
    let excess := precision.excessBits number
    let kept := halveToEven (number.significand <<< (-excess).toNat) excess.toNat
    let steps := (number.exponent + excess - precision.leastExponent).toNat
    min (steps <<< precision.fractionBits + kept) precision.infinity

end Precision

namespace FloatBits

variable {precision : Precision}

def ofParts (precision : Precision) (negative : Bool) (magnitude : Nat) : FloatBits precision :=
  BitVec.ofNat precision.width (magnitude + if negative then 1 <<< (precision.width - 1) else 0)

def isNegative (bits : FloatBits precision) : Bool := bits.msb

def magnitude (bits : FloatBits precision) : Nat := bits.toNat % 1 <<< (precision.width - 1)

def isFinite (bits : FloatBits precision) : Bool := bits.magnitude < precision.infinity

def isNaN (bits : FloatBits precision) : Bool := precision.infinity < bits.magnitude

end FloatBits
end KernelLaunch
