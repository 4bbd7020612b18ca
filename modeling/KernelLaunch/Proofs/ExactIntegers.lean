import KernelLaunch.Proofs.HostScalars

/-! Integers as floating-point numbers. Whether a format has an integer is found out by rounding it and looking
at what has become of it. Here it is said by digits: those of the integer, without zeros at its end, must be
no more than a significand has. So rounding is never seen from outside. -/

namespace KernelLaunch
namespace Precision

variable {precision : Precision} {natural : Nat}

/-- A whole number that is written with as many binary digits as a significand has, and zeros behind them. -/
def HasNat (precision : Precision) (natural : Nat) : Prop :=
  ∃ significand places : Nat, natural = significand * 2 ^ places ∧ significand < 2 ^ precision.digits

/-- An integer of a format: 24 binary digits in single and 53 in double precision, and zeros behind them. -/
def Has (precision : Precision) (number : Int) : Prop :=
  ∃ (significand : Int) (places : Nat), number = significand * 2 ^ places ∧ |significand| < 2 ^ precision.digits

theorem has_iff {number : Int} : precision.Has number ↔ precision.HasNat number.natAbs := by
  constructor
  · rintro ⟨significand, places, rfl, short⟩
    refine ⟨significand.natAbs, places, ?_, ?_⟩
    · rw [Int.natAbs_mul, Int.natAbs_pow]
      rfl
    · rw [Int.abs_eq_natAbs] at short
      exact mod_cast short
  · intro ⟨significand, places, same, short⟩
    have fits : |(significand : Int)| < 2 ^ precision.digits := by
      rw [Nat.abs_cast]
      exact mod_cast short
    rcases Int.natAbs_eq number with positive | negative
    · refine ⟨significand, places, ?_, fits⟩
      rw [positive, same]
      push_cast
      rfl
    · refine ⟨-significand, places, ?_, abs_neg (significand : Int) ▸ fits⟩
      rw [negative, same]
      push_cast
      ring

/-- What a magnitude stands for has no more digits than a significand. -/
theorem hasNat_of_value {magnitude : Nat} (same : (precision.value magnitude).toRat = natural) :
    precision.HasNat natural := by
  have short := (precision.canonical_value magnitude).fits
  have whole := Scaled.isNat_iff.mpr same
  rw [Scaled.isNat, beq_iff_eq, Nat.shiftLeft_eq, Nat.shiftLeft_eq] at whole
  rcases Int.le_total 0 (precision.value magnitude).exponent with large | small
  · have nothing : (-(precision.value magnitude).exponent).toNat = 0 := by omega
    rw [nothing, pow_zero, mul_one] at whole
    exact ⟨_, _, whole.symm, short⟩
  · -- the number is no longer than the significand that it is a part of
    have nothing : (precision.value magnitude).exponent.toNat = 0 := by omega
    rw [nothing, pow_zero, mul_one] at whole
    have part := Nat.le_mul_of_pos_right natural (Nat.two_pow_pos (-(precision.value magnitude).exponent).toNat)
    exact ⟨natural, 0, (mul_one _).symm, by omega⟩

theorem exists_magnitude (word : natural < wordLimit) (has : precision.HasNat natural) :
    ∃ magnitude < precision.infinity, (precision.value magnitude).toRat = natural := by
  obtain ⟨significand, places, rfl, short⟩ := has
  by_cases zero : significand = 0
  · refine ⟨0, ?_, ?_⟩
    · cases precision <;> decide
    · subst zero
      cases precision <;> simp [value, Scaled.toRat]
  · have least : precision.leastExponent ≤ (places : Int) := by cases precision <;> simp only [leastExponent] <;> omega
    obtain ⟨number, canonical, same, below⟩ := exists_canonical short least
    have few : places < 64 := by
      apply (Nat.pow_lt_pow_iff_right (by decide : 1 < 2)).mp
      exact (Nat.le_mul_of_pos_left _ (Nat.pos_of_ne_zero zero)).trans_lt word
    refine ⟨precision.pattern number, pattern_lt_infinity canonical ?_, ?_⟩
    · have high : (63 : Int) ≤ precision.greatestExponent := by cases precision <;> decide
      omega
    · rw [value_pattern canonical, same]
      simp [Scaled.toRat]

/-- Rounding and looking at the outcome finds every integer of a word that the format has. -/
theorem exactInteger?_of_has {number : Int} (word : number.natAbs < wordLimit) (has : precision.Has number) :
    ∃ bits, precision.exactInteger? number = some bits ∧ bits.exactValue? = some (number : ℚ) ∧
      bits.isNegative = decide (number < 0) ∧ bits.Ordinary := by
  obtain ⟨magnitude, finite, same⟩ := exists_magnitude word (has_iff.mp has)
  have fits := finite.trans precision.infinity_lt
  have whole : (Scaled.mk number.natAbs 0).toRat = number.natAbs := by simp [Scaled.toRat]
  have rounded : precision.round ⟨number.natAbs, 0⟩ = magnitude := round_of_value finite (whole.trans same.symm)
  refine ⟨FloatBits.ofParts precision (number < 0) magnitude, ?_, ?_, FloatBits.isNegative_ofParts fits, ?_⟩
  · simp only [exactInteger?, rounded, Scaled.isNat_iff.mpr same, if_true]
  · rw [FloatBits.exactValue?_ofParts finite, same]
    congr 1
    by_cases negative : number < 0
    · rw [Nat.cast_natAbs, abs_of_neg negative, decide_eq_true negative]
      simp
    · rw [Nat.cast_natAbs, abs_of_nonneg (Int.not_lt.mp negative), decide_eq_false negative]
      simp
  · intro unordered
    rw [FloatBits.magnitude_ofParts fits] at unordered
    omega

theorem exactInteger?_of_not_has {number : Int} (lacks : ¬ precision.Has number) :
    precision.exactInteger? number = none := by
  simp only [exactInteger?]
  rw [if_neg]
  intro exact
  exact lacks (has_iff.mpr (hasNat_of_value (Scaled.isNat_iff.mp exact)))

end Precision

variable {value : ArgValue} {number : Int}

theorem ArgValue.natAbs_lt_of_denotes (denotes : value.integer? = some number) : number.natAbs < wordLimit := by
  cases value with
  | int word =>
    obtain rfl := Option.some.inj denotes
    have least := word.le_toInt
    have greatest := word.toInt_lt
    unfold wordLimit
    omega
  | uint word =>
    obtain rfl := Option.some.inj denotes
    have greatest := word.toNat_lt
    unfold wordLimit
    omega
  | float _ | complex _ _ | bool _ | array _ => cases denotes

/-- Both kinds of number take an integer of the format; the complex one has a positive zero beside it. -/
theorem marshal_of_exactInteger? (home : UInt64) {precision : Precision} {bits : FloatBits precision}
    (denotes : value.integer? = some number) (exact : precision.exactInteger? number = some bits) :
    marshal home value (.scalar (.real precision)) = .ok (.value (.scalar (.real precision) bits)) ∧
      marshal home value (.scalar (.complex precision)) =
        .ok (.value (.scalar (.complex precision) (bits, (0 : FloatBits precision)))) := by
  have real (type : ScalarType) : value.realFor type precision = .ok bits := by
    rw [ArgValue.realFor_of_denotes denotes, exact]
  constructor
  · exact marshal_of_payloadFor (real (.real precision))
  · apply marshal_of_payloadFor
    rw [ArgValue.payloadFor, ArgValue.complexFor_of_denotes denotes, real]
    rfl

theorem marshal_inexact {home : UInt64} {precision : Precision} {type : ScalarType}
    (floating : type = .real precision ∨ type = .complex precision) (denotes : value.integer? = some number)
    (inexact : precision.exactInteger? number = none) :
    marshal home value (.scalar type) = .error (.integerOutOfRange type number) := by
  have real (type : ScalarType) : value.realFor type precision = .error (.integerOutOfRange type number) := by
    rw [ArgValue.realFor_of_denotes denotes, inexact]
  rcases floating with rfl | rfl
  · simp only [marshal, ArgValue.payloadFor, real, Except.map]
  · simp only [marshal, ArgValue.payloadFor, ArgValue.complexFor_of_denotes denotes, real, Except.map]

/-- An integer becomes a real or complex number of a precision just when it is written with as many digits as the
precision has and zeros behind them. Then the bits of the real part are those of the very same number, with the
sign of the integer, and would be the same after a detour through double precision; the imaginary part is a
positive zero. Any other integer is reported with its type and in decimal, so that none is ever rounded. -/
theorem integers_as_floats (home : UInt64) (denotes : value.integer? = some number) (precision : Precision) :
    (∀ type, type = .real precision ∨ type = .complex precision →
      ((∃ slot, marshal home value (.scalar type) = .ok slot) ↔ precision.Has number) ∧
      (¬ precision.Has number →
        marshal home value (.scalar type) = .error (.integerOutOfRange type number) ∧
          (MarshalError.integerOutOfRange type number).message =
            "value " ++ toString number ++ " out of range for " ++ type.name)) ∧
    (precision.Has number → ∃ bits : FloatBits precision,
      bits.exactValue? = some (number : ℚ) ∧ bits.isNegative = decide (number < 0) ∧
      (∀ type, ArgValue.fitReal type (FloatBits.widen precision bits) precision = .ok bits) ∧
      marshal home value (.scalar (.real precision)) = .ok (.value (.scalar (.real precision) bits)) ∧
      marshal home value (.scalar (.complex precision)) =
        .ok (.value (.scalar (.complex precision) (bits, (0 : FloatBits precision))))) := by
  have found (has : precision.Has number) :=
    Precision.exactInteger?_of_has (ArgValue.natAbs_lt_of_denotes denotes) has
  constructor
  · intro type floating
    have refused (lacks : ¬ precision.Has number) : marshal home value (.scalar type) = .error _ :=
      marshal_inexact floating denotes (Precision.exactInteger?_of_not_has lacks)
    refine ⟨⟨?_, ?_⟩, fun lacks => ⟨refused lacks, rfl⟩⟩
    · intro ⟨slot, converted⟩
      by_contra lacks
      rw [refused lacks] at converted
      cases converted
    · intro has
      obtain ⟨bits, exact, _⟩ := found has
      obtain ⟨real, complex⟩ := marshal_of_exactInteger? home denotes exact
      rcases floating with rfl | rfl
      · exact ⟨_, real⟩
      · exact ⟨_, complex⟩
  · intro has
    obtain ⟨bits, exact, exactly, sign, ordinary⟩ := found has
    exact ⟨bits, exactly, sign, fun type => ArgValue.fitReal_widen type ordinary,
      marshal_of_exactInteger? home denotes exact⟩

/-- The least signed word is a power of two, so single precision has it. It has not the first integer of 25 digits,
which is refused for a complex type too. -/
theorem integers_as_floats_edges :
    (ArgValue.int Int64.minValue).integer? = some (-0x8000000000000000) ∧
      (∃ bits : FloatBits .single, bits.exactValue? = some (-0x8000000000000000) ∧
        marshal 0 (.int Int64.minValue) (.scalar (.real .single)) = .ok (.value (.scalar (.real .single) bits))) ∧
      (ArgValue.uint 0x1000001).integer? = some 0x1000001 ∧
      marshal 0 (.uint 0x1000001) (.scalar (.complex .single)) =
        .error (.integerOutOfRange (.complex .single) 0x1000001) := by
  have least : (ArgValue.int Int64.minValue).integer? = some (-0x8000000000000000) := rfl
  have odd : (ArgValue.uint 0x1000001).integer? = some 0x1000001 := rfl
  have power : Precision.single.Has (-0x8000000000000000) := ⟨-1, 63, by norm_num, by norm_num [Precision.digits]⟩
  have long : ¬ Precision.single.Has 0x1000001 := by
    intro ⟨significand, places, same, short⟩
    cases places with
    | zero =>
      rw [pow_zero, mul_one] at same
      subst same
      exact absurd short (by decide)
    | succ places =>
      rw [pow_succ, ← mul_assoc] at same
      omega
  obtain ⟨bits, exactly, _, _, real, _⟩ := (integers_as_floats 0 least .single).2 power
  refine ⟨least, ⟨bits, by exact_mod_cast exactly, real⟩, odd, ?_⟩
  exact (((integers_as_floats 0 odd .single).1 _ (.inr rfl)).2 long).1

end KernelLaunch
