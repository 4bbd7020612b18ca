import KernelLaunch.Binary.Conversion
import Mathlib

/-! Rounding is for numbers that a format does not hold. Those it holds have one form each, with as many digits
before the last place as there can be, and that form is what a magnitude spells. A number given in any other
form, with trailing zeros or with too small an exponent, is rounded to the magnitude that spells it. -/

namespace KernelLaunch

/-! ### Lengths in base two -/

theorem bitLength_le_iff {number count : Nat} : bitLength number ≤ count ↔ number < 2 ^ count := by
  unfold bitLength
  split
  · rename_i zero
    simp [zero]
  · rename_i nonzero
    rw [Nat.succ_le_iff, Nat.log2_lt nonzero]

theorem bitLength_eq_size (number : Nat) : bitLength number = number.size := by
  apply eq_of_forall_ge_iff
  intro count
  rw [bitLength_le_iff, Nat.size_le]

theorem bitLength_mul_pow {number : Nat} (nonzero : number ≠ 0) (places : Nat) :
    bitLength (number * 2 ^ places) = bitLength number + places := by
  rw [bitLength_eq_size, bitLength_eq_size, ← Nat.shiftLeft_eq, Nat.size_shiftLeft nonzero]

/-- Zeros that are shifted out leave nothing to round. -/
theorem halveToEven_mul_pow (number places : Nat) : halveToEven (number * 2 ^ places) places = number := by
  have positive : 0 < 2 ^ places := Nat.two_pow_pos places
  simp only [halveToEven, Nat.one_shiftLeft, Nat.mul_div_left _ positive, Nat.mul_mod_left]
  rw [if_neg]
  omega

namespace Scaled

/-! ### Exact values -/

def toRat (number : Scaled) : ℚ := number.significand * 2 ^ number.exponent

theorem toRat_eq {number : Scaled} {exponent : Int} (below : exponent ≤ number.exponent) :
    number.toRat = (number.significand * 2 ^ (number.exponent - exponent).toNat : Nat) * 2 ^ exponent := by
  have split : number.exponent = ((number.exponent - exponent).toNat : Int) + exponent := by omega
  calc number.toRat
    _ = number.significand * 2 ^ (((number.exponent - exponent).toNat : Int) + exponent) := by
      rw [toRat, ← split]
    _ = _ := by
      rw [zpow_add₀ two_ne_zero, zpow_natCast]
      push_cast
      ring

/-- Two numbers are equal when their significands are, once both are counted in the smaller unit. -/
theorem toRat_eq_iff {first second : Scaled} :
    first.toRat = second.toRat ↔
      first.significand * 2 ^ (first.exponent - second.exponent).toNat =
        second.significand * 2 ^ (second.exponent - first.exponent).toNat := by
  have unit : (2 : ℚ) ^ min first.exponent second.exponent ≠ 0 := zpow_ne_zero _ two_ne_zero
  have left : (first.exponent - min first.exponent second.exponent).toNat =
      (first.exponent - second.exponent).toNat := by omega
  have right : (second.exponent - min first.exponent second.exponent).toNat =
      (second.exponent - first.exponent).toNat := by omega
  rw [toRat_eq (min_le_left _ _), toRat_eq (min_le_right _ _), left, right, mul_left_inj' unit, Nat.cast_inj]

theorem isNat_iff {number : Scaled} {natural : Nat} : number.isNat natural = true ↔ number.toRat = natural := by
  have whole : (Scaled.mk natural 0).toRat = natural := by simp [toRat]
  rw [← whole, toRat_eq_iff, isNat, beq_iff_eq, Nat.shiftLeft_eq, Nat.shiftLeft_eq, Int.sub_zero, Int.zero_sub]

theorem significand_eq_zero_iff {first second : Scaled} (same : first.toRat = second.toRat) :
    first.significand = 0 ↔ second.significand = 0 := by
  have crossed := toRat_eq_iff.mp same
  constructor
  · intro zero
    simpa [zero] using crossed.symm
  · intro zero
    simpa [zero] using crossed

/-- The place of the leading digit depends on the value alone. -/
theorem bitLength_add_exponent {first second : Scaled} (same : first.toRat = second.toRat)
    (nonzero : first.significand ≠ 0) :
    bitLength first.significand + first.exponent = bitLength second.significand + second.exponent := by
  have other : second.significand ≠ 0 := fun zero => nonzero ((significand_eq_zero_iff same).mpr zero)
  have lengths := congrArg bitLength (toRat_eq_iff.mp same)
  rw [bitLength_mul_pow nonzero, bitLength_mul_pow other] at lengths
  omega

end Scaled

namespace Precision

variable {precision : Precision}

/-! ### The form that a magnitude spells -/

/-- Bits of the exponent field. -/
def exponentBits (precision : Precision) : Nat := precision.width - precision.digits

/-- The exponent of the last significand bit of the largest numbers. -/
def greatestExponent (precision : Precision) : Int :=
  precision.leastExponent + (2 ^ precision.exponentBits : Nat) - 3

theorem pow_digits (precision : Precision) : 2 ^ precision.digits = 2 * 2 ^ precision.fractionBits := by
  cases precision <;> rfl

theorem infinity_eq (precision : Precision) :
    precision.infinity = (2 ^ precision.exponentBits - 1) * 2 ^ precision.fractionBits := by
  cases precision <;> rfl

/-- The significand has its leading digit, unless the exponent cannot be smaller. -/
structure Canonical (precision : Precision) (number : Scaled) : Prop where
  fits : number.significand < 2 ^ precision.digits
  least : precision.leastExponent ≤ number.exponent
  leading : precision.leastExponent < number.exponent → 2 ^ precision.fractionBits ≤ number.significand

/-- The magnitude that spells a number. The leading digit of the significand is not kept apart from the
exponent field but added to it. -/
def pattern (precision : Precision) (number : Scaled) : Nat :=
  (number.exponent - precision.leastExponent).toNat * 2 ^ precision.fractionBits + number.significand

theorem canonical_value (precision : Precision) (magnitude : Nat) :
    precision.Canonical (precision.value magnitude) := by
  have positive : 0 < 2 ^ precision.fractionBits := Nat.two_pow_pos _
  have double := precision.pow_digits
  unfold value
  simp only [Nat.one_shiftLeft]
  split
  · rename_i small
    constructor <;> simp only <;> omega
  · rename_i large
    have remainder := Nat.mod_lt magnitude positive
    have quotient : 0 < magnitude / 2 ^ precision.fractionBits := Nat.div_pos (Nat.le_of_not_lt large) positive
    constructor <;> simp only <;> omega

theorem pattern_value (precision : Precision) (magnitude : Nat) :
    precision.pattern (precision.value magnitude) = magnitude := by
  have positive : 0 < 2 ^ precision.fractionBits := Nat.two_pow_pos _
  unfold value
  simp only [Nat.one_shiftLeft]
  split
  · simp [pattern]
  · rename_i large
    have quotient : 0 < magnitude / 2 ^ precision.fractionBits := Nat.div_pos (Nat.le_of_not_lt large) positive
    have whole := Nat.div_add_mod' magnitude (2 ^ precision.fractionBits)
    obtain ⟨steps, counted⟩ := Nat.exists_eq_succ_of_ne_zero quotient.ne'
    have exponent : (precision.leastExponent + ((steps.succ : Nat) : Int) - 1 - precision.leastExponent).toNat = steps := by
      omega
    simp only [pattern, counted, exponent]
    rw [counted, Nat.succ_mul] at whole
    omega

theorem value_pattern {number : Scaled} (canonical : precision.Canonical number) :
    precision.value (precision.pattern number) = number := by
  obtain ⟨fits, least, leading⟩ := canonical
  obtain ⟨significand, exponent⟩ := number
  have positive : 0 < 2 ^ precision.fractionBits := Nat.two_pow_pos _
  rw [pow_digits] at fits
  simp only [pattern, value, Nat.one_shiftLeft] at fits least leading ⊢
  by_cases short : significand < 2 ^ precision.fractionBits
  · -- without a leading digit the exponent is the least one
    obtain rfl : exponent = precision.leastExponent := by
      by_contra other
      have := leading (by omega)
      omega
    simp [short]
  · obtain ⟨fraction, rfl⟩ := Nat.exists_eq_add_of_le (Nat.le_of_not_lt short)
    have below : fraction < 2 ^ precision.fractionBits := by omega
    have spelled : (exponent - precision.leastExponent).toNat * 2 ^ precision.fractionBits +
        (2 ^ precision.fractionBits + fraction) =
        fraction + ((exponent - precision.leastExponent).toNat + 1) * 2 ^ precision.fractionBits := by ring
    rw [spelled, if_neg (by rw [Nat.succ_mul]; omega), Nat.add_mul_mod_self_right, Nat.mod_eq_of_lt below,
      Nat.add_mul_div_right _ _ positive, Nat.div_eq_of_lt below, Scaled.mk.injEq]
    omega

/-- What has few enough digits is brought to its canonical form by zeros behind them, as long as the exponent
can be made smaller. -/
theorem exists_canonical {significand : Nat} {exponent : Int} (fits : significand < 2 ^ precision.digits)
    (least : precision.leastExponent ≤ exponent) :
    ∃ number, precision.Canonical number ∧ number.toRat = (Scaled.mk significand exponent).toRat ∧
      number.exponent ≤ exponent := by
  obtain ⟨steps, rfl⟩ := Int.le.dest least
  induction steps generalizing significand with
  | zero => exact ⟨⟨significand, _⟩, ⟨fits, least, by simp⟩, rfl, Int.le_refl _⟩
  | succ steps ih =>
    by_cases leading : 2 ^ precision.fractionBits ≤ significand
    · exact ⟨⟨significand, _⟩, ⟨fits, least, fun _ => leading⟩, rfl, Int.le_refl _⟩
    · have double := precision.pow_digits
      have longer : significand * 2 < 2 ^ precision.digits := by omega
      obtain ⟨number, canonical, equal, below⟩ := ih longer (by omega)
      refine ⟨number, canonical, equal.trans ?_, by omega⟩
      apply Scaled.toRat_eq_iff.mpr
      have same : (precision.leastExponent + steps - (precision.leastExponent + ((steps + 1 : Nat) : Int))).toNat = 0 := by
        omega
      have apart : (precision.leastExponent + ((steps + 1 : Nat) : Int) - (precision.leastExponent + steps)).toNat = 1 := by
        omega
      simp only [same, apart, pow_zero, pow_one, mul_one]

/-! ### Rounding of numbers that a format holds -/

/-- Exactly the digits that the canonical form has not are given up. -/
theorem excessBits_eq {number canonical : Scaled} (form : precision.Canonical canonical)
    (same : number.toRat = canonical.toRat) (nonzero : number.significand ≠ 0) :
    precision.excessBits number = canonical.exponent - number.exponent := by
  obtain ⟨fits, least, leading⟩ := form
  have lengths := Scaled.bitLength_add_exponent same nonzero
  have short := bitLength_le_iff.mpr fits
  have digits : precision.digits = precision.fractionBits + 1 := by cases precision <;> rfl
  unfold excessBits
  rcases Int.lt_or_eq_of_le least with above | lowest
  · have full : ¬ bitLength canonical.significand ≤ precision.fractionBits := by
      rw [bitLength_le_iff]
      exact Nat.not_lt.mpr (leading above)
    omega
  · omega

theorem round_eq_pattern {number canonical : Scaled} (form : precision.Canonical canonical)
    (same : number.toRat = canonical.toRat) :
    precision.round number = min (precision.pattern canonical) precision.infinity := by
  unfold round
  split
  · rename_i zero
    have empty := (Scaled.significand_eq_zero_iff same).mp zero
    have lowest : canonical.exponent = precision.leastExponent := by
      by_contra other
      have leading := form.leading (lt_of_le_of_ne form.least (Ne.symm other))
      rw [empty] at leading
      exact absurd leading (Nat.not_le.mpr (Nat.two_pow_pos _))
    simp [pattern, empty, lowest]
  · rename_i nonzero
    have crossed := Scaled.toRat_eq_iff.mp same
    have shifted : (-(canonical.exponent - number.exponent)).toNat = (number.exponent - canonical.exponent).toNat := by
      omega
    have exponent : number.exponent + (canonical.exponent - number.exponent) = canonical.exponent := by omega
    simp only [excessBits_eq form same nonzero, shifted, exponent, Nat.shiftLeft_eq, crossed, halveToEven_mul_pow,
      pattern]

/-- A number that a magnitude stands for is rounded to that magnitude, however it is given. -/
theorem round_of_value {number : Scaled} {magnitude : Nat} (finite : magnitude < precision.infinity)
    (same : number.toRat = (precision.value magnitude).toRat) : precision.round number = magnitude := by
  rw [round_eq_pattern (precision.canonical_value magnitude) same, pattern_value]
  exact min_eq_left (Nat.le_of_lt finite)

theorem pattern_lt_infinity {number : Scaled} (canonical : precision.Canonical number)
    (low : number.exponent ≤ precision.greatestExponent) : precision.pattern number < precision.infinity := by
  have fits := canonical.fits
  have limit : 3 ≤ 2 ^ precision.exponentBits := by cases precision <;> decide
  have steps : (number.exponent - precision.leastExponent).toNat + 2 ≤ 2 ^ precision.exponentBits - 1 := by
    unfold greatestExponent at low
    omega
  rw [pow_digits] at fits
  rw [infinity_eq]
  calc precision.pattern number
    _ < ((number.exponent - precision.leastExponent).toNat + 2) * 2 ^ precision.fractionBits := by
      rw [pattern, Nat.add_mul]
      omega
    _ ≤ _ := Nat.mul_le_mul_right _ steps

theorem exponent_value_le {magnitude : Nat} (finite : magnitude < precision.infinity) :
    (precision.value magnitude).exponent ≤ precision.greatestExponent := by
  have limit : 3 ≤ 2 ^ precision.exponentBits := by cases precision <;> decide
  have positive : 0 < 2 ^ precision.fractionBits := Nat.two_pow_pos _
  rw [infinity_eq, ← Nat.div_lt_iff_lt_mul positive] at finite
  simp only [value, Nat.one_shiftLeft, greatestExponent]
  split <;> simp only <;> omega

end Precision
end KernelLaunch
