import KernelLaunch.Proofs.ExactRounding

/-! A floating-point pattern taken apart. It is a sign and a magnitude for conversions, and a sign, a biased
exponent and a trailing fraction for the standard that defines its value. Both readings are of the same bits,
and they agree on every finite pattern. -/

namespace KernelLaunch

theorem Precision.infinity_lt (precision : Precision) : precision.infinity < 2 ^ (precision.width - 1) := by
  cases precision <;> decide

namespace FloatBits

variable {precision : Precision} {negative : Bool} {magnitude : Nat}

/-! ### Sign and magnitude -/

theorem toNat_ofParts (fits : magnitude < 2 ^ (precision.width - 1)) :
    BitVec.toNat (ofParts precision negative magnitude) =
      magnitude + if negative then 2 ^ (precision.width - 1) else 0 := by
  have whole : 2 ^ precision.width = 2 * 2 ^ (precision.width - 1) := by cases precision <;> rfl
  rw [ofParts, BitVec.toNat_ofNat, Nat.one_shiftLeft]
  apply Nat.mod_eq_of_lt
  split <;> omega

theorem magnitude_lt (bits : FloatBits precision) : bits.magnitude < 2 ^ (precision.width - 1) := by
  rw [FloatBits.magnitude, Nat.one_shiftLeft]
  exact Nat.mod_lt _ (Nat.two_pow_pos _)

theorem magnitude_ofParts (fits : magnitude < 2 ^ (precision.width - 1)) :
    (ofParts precision negative magnitude).magnitude = magnitude := by
  rw [FloatBits.magnitude, toNat_ofParts fits, Nat.one_shiftLeft]
  split
  · rw [Nat.add_mod_right, Nat.mod_eq_of_lt fits]
  · rw [Nat.add_zero, Nat.mod_eq_of_lt fits]

theorem isNegative_ofParts (fits : magnitude < 2 ^ (precision.width - 1)) :
    (ofParts precision negative magnitude).isNegative = negative := by
  rw [isNegative, BitVec.msb_eq_decide, toNat_ofParts fits]
  cases negative
  · simpa using fits
  · simp

theorem ofParts_parts (bits : FloatBits precision) :
    ofParts precision bits.isNegative bits.magnitude = bits := by
  have whole : 2 ^ precision.width = 2 * 2 ^ (precision.width - 1) := by cases precision <;> rfl
  have fits := bits.isLt
  have parts := Nat.mod_add_div (BitVec.toNat bits) (2 ^ (precision.width - 1))
  apply BitVec.eq_of_toNat_eq
  rw [toNat_ofParts (magnitude_lt bits), FloatBits.magnitude, Nat.one_shiftLeft, isNegative, BitVec.msb_eq_decide]
  by_cases upper : 2 ^ (precision.width - 1) ≤ BitVec.toNat bits
  · have above : BitVec.toNat bits - 2 ^ (precision.width - 1) < 2 ^ (precision.width - 1) := by omega
    rw [decide_eq_true upper, if_pos rfl, Nat.mod_eq_sub_mod upper, Nat.mod_eq_of_lt above]
    omega
  · rw [decide_eq_false upper, Nat.mod_eq_of_lt (Nat.lt_of_not_le upper)]
    rfl

/-! ### The value by the standard -/

/-- The value of a pattern as the standard for binary floating-point numbers has it. An exponent field of ones
stands for no number; one of zeros for numbers without the leading digit that all others have. -/
def exactValue? (bits : FloatBits precision) : Option ℚ :=
  let sign : ℚ := if bits.msb then -1 else 1
  let bias : Int := 2 ^ (precision.exponentBits - 1) - 1
  let fraction := BitVec.toNat bits % 2 ^ (precision.digits - 1)
  let exponent := BitVec.toNat bits / 2 ^ (precision.digits - 1) % 2 ^ precision.exponentBits
  if exponent = 2 ^ precision.exponentBits - 1 then none
  else if exponent = 0 then some (sign * 2 ^ (1 - bias) * (fraction / 2 ^ (precision.digits - 1)))
  else some (sign * 2 ^ (exponent - bias) * (1 + fraction / 2 ^ (precision.digits - 1)))

/-- The fields of a pattern without its sign bit, which stands above both. -/
theorem fields_ofParts (negative : Bool) (fits : magnitude < 2 ^ (precision.width - 1)) :
    BitVec.toNat (ofParts precision negative magnitude) % 2 ^ precision.fractionBits =
        magnitude % 2 ^ precision.fractionBits ∧
      BitVec.toNat (ofParts precision negative magnitude) / 2 ^ precision.fractionBits % 2 ^ precision.exponentBits =
        magnitude / 2 ^ precision.fractionBits := by
  have positive : 0 < 2 ^ precision.fractionBits := Nat.two_pow_pos _
  have upper : 2 ^ (precision.width - 1) = 2 ^ precision.exponentBits * 2 ^ precision.fractionBits := by
    cases precision <;> rfl
  rw [upper] at fits
  have exponent := (Nat.div_lt_iff_lt_mul positive).mpr fits
  rw [toNat_ofParts (upper ▸ fits), upper]
  split
  · rw [Nat.add_mul_mod_self_right, Nat.add_mul_div_right _ _ positive, Nat.add_mod_right,
      Nat.mod_eq_of_lt exponent]
    exact ⟨rfl, rfl⟩
  · rw [Nat.add_zero, Nat.mod_eq_of_lt exponent]
    exact ⟨rfl, rfl⟩

/-- A finite magnitude has its value in the standard's sense, and the sign is that of the value. -/
theorem exactValue?_ofParts (finite : magnitude < precision.infinity) :
    (ofParts precision negative magnitude).exactValue? =
      some ((if negative then -1 else 1) * (precision.value magnitude).toRat) := by
  have fits := finite.trans precision.infinity_lt
  have positive : 0 < 2 ^ precision.fractionBits := Nat.two_pow_pos _
  obtain ⟨fraction, exponent⟩ := fields_ofParts negative fits
  have sign : BitVec.msb (ofParts precision negative magnitude) = negative := isNegative_ofParts fits
  have small : magnitude / 2 ^ precision.fractionBits < 2 ^ precision.exponentBits - 1 := by
    rwa [Precision.infinity_eq, ← Nat.div_lt_iff_lt_mul positive] at finite
  have least : precision.leastExponent = 1 - (2 ^ (precision.exponentBits - 1) - 1) - precision.fractionBits := by
    cases precision <;> rfl
  have digits : precision.digits - 1 = precision.fractionBits := rfl
  rw [exactValue?]
  simp only [digits, fraction, exponent, sign, if_neg small.ne, Precision.value, Nat.one_shiftLeft]
  by_cases short : magnitude < 2 ^ precision.fractionBits
  · rw [if_pos short, if_pos (Nat.div_eq_of_lt short), Nat.mod_eq_of_lt short, Scaled.toRat, least,
      zpow_sub₀ two_ne_zero _ (precision.fractionBits : Int), zpow_natCast]
    congr 1
    ring
  · have unbiased : 1 - (2 ^ (precision.exponentBits - 1) - 1) - (precision.fractionBits : Int) +
        (magnitude / 2 ^ precision.fractionBits : Nat) - 1 =
        (magnitude / 2 ^ precision.fractionBits : Nat) - (2 ^ (precision.exponentBits - 1) - 1) -
          precision.fractionBits := by ring
    rw [if_neg short, if_neg (Nat.div_pos (Nat.le_of_not_lt short) positive).ne', Scaled.toRat, least, unbiased,
      zpow_sub₀ two_ne_zero _ (precision.fractionBits : Int), zpow_natCast]
    congr 1
    push_cast
    field_simp

end FloatBits
end KernelLaunch
