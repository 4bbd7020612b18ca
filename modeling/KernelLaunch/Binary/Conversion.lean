import KernelLaunch.Binary.Format

/-! Conversions into a floating-point format: from the other format, from an integer that must
survive unchanged, and from a quotient. Each computes the exact value and rounds it once. -/

namespace KernelLaunch

namespace FloatBits

/-- The value in another format, rounded to nearest. Widening is exact. A NaN keeps its sign and
the leading bits of its fraction. -/
def convert {source : Precision} (target : Precision) (bits : FloatBits source) : FloatBits target :=
  let magnitude :=
    if bits.isFinite then target.round (source.value bits.magnitude)
    else if bits.isNaN then
      let fraction := bits.magnitude - source.infinity
      target.quietNaN (fraction <<< target.fractionBits >>> source.fractionBits)
    else target.infinity
  ofParts target bits.isNegative magnitude

end FloatBits

namespace Scaled

def isNat (number : Scaled) (natural : Nat) : Bool :=
  number.significand <<< number.exponent.toNat == natural <<< (-number.exponent).toNat

/-- The exact quotient, except that the last bit of its significand only tells whether anything
lies below the others; there are enough of them for one rounding in the given format. -/
def quotient (precision : Precision) (dividend divisor : Scaled) : Scaled :=
  let places := precision.digits + 2 + bitLength divisor.significand
  let numerator := dividend.significand <<< places
  let sticky := if numerator % divisor.significand = 0 then 0 else 1
  ⟨2 * (numerator / divisor.significand) + sticky,
    dividend.exponent - divisor.exponent - places - 1⟩

end Scaled

namespace Precision

/-- The pattern of an integer, if the format holds the integer exactly. -/
def exactInteger? (precision : Precision) (integer : Int) : Option (FloatBits precision) :=
  let magnitude := precision.round ⟨integer.natAbs, 0⟩
  if (precision.value magnitude).isNat integer.natAbs then
    some (FloatBits.ofParts precision (integer < 0) magnitude)
  else none

end Precision

def nearestDouble (natural : Nat) : Nat := Precision.double.round ⟨natural, 0⟩

/-- The quotient of two natural numbers, both rounded to double precision first. Nothing is
divided by zero: that quotient counts as zero. -/
def doubleQuotient (dividend divisor : Nat) : Nat :=
  let exact := Precision.double.value
  if divisor = 0 then 0
  else
    Precision.double.round
      (Scaled.quotient .double (exact (nearestDouble dividend)) (exact (nearestDouble divisor)))

def milliseconds (microseconds : Nat) : FloatBits .double :=
  FloatBits.ofParts .double false (doubleQuotient microseconds 1000)

/-- Items per second for a count of items and a time in microseconds: the rounded quotient times a
million, rounded again. No time gives no rate. -/
def itemsPerSecond (items microseconds : Nat) : FloatBits .double :=
  let rate := Precision.double.value (doubleQuotient items microseconds)
  FloatBits.ofParts .double false
    (Precision.double.round ⟨rate.significand * 1000000, rate.exponent⟩)

end KernelLaunch
