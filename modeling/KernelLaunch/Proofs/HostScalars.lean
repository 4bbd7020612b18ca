import KernelLaunch.Proofs.FloatParts
import KernelLaunch.Proofs.IntegerCells

/-! A scalar of the host on its way to a cell of its own type. Integers pass through 64 bits and floating-point
numbers through double precision, where a number without a leading digit gets one and loses it again. The value
that comes out is the one that went in, by its bits. -/

namespace KernelLaunch

/-! ### Magnitudes in another format -/

namespace Precision

/-- The magnitude of a number in another format, whatever its sign. -/
def recast (source target : Precision) (magnitude : Nat) : Nat :=
  if magnitude < source.infinity then target.round (source.value magnitude)
  else if source.infinity < magnitude then
    target.quietNaN ((magnitude - source.infinity) <<< target.fractionBits >>> source.fractionBits)
  else target.infinity

theorem recast_of_value {source target : Precision} {magnitude other : Nat} (finite : magnitude < source.infinity)
    (otherFinite : other < target.infinity) (same : (source.value magnitude).toRat = (target.value other).toRat) :
    source.recast target magnitude = other := by
  rw [recast, if_pos finite]
  exact round_of_value otherFinite same

theorem recast_infinity (source target : Precision) : source.recast target source.infinity = target.infinity := by
  rw [recast, if_neg (Nat.lt_irrefl _), if_neg (Nat.lt_irrefl _)]

/-- Every finite number in single precision is one in double precision. -/
theorem exists_wide {magnitude : Nat} (finite : magnitude < single.infinity) :
    ∃ wide < double.infinity, (double.value wide).toRat = (single.value magnitude).toRat := by
  obtain ⟨fits, least, _⟩ := single.canonical_value magnitude
  have fitsWide : (single.value magnitude).significand < 2 ^ double.digits := fits.trans (by decide)
  have leastWide : double.leastExponent ≤ (single.value magnitude).exponent := le_trans (by decide) least
  obtain ⟨number, canonical, same, below⟩ := exists_canonical fitsWide leastWide
  refine ⟨double.pattern number, pattern_lt_infinity canonical ?_, ?_⟩
  · exact (below.trans (exponent_value_le finite)).trans (by decide)
  · rw [value_pattern canonical]
    exact same

/-- A magnitude that is no NaN, or the canonical one. -/
def Ordinary (precision : Precision) (magnitude : Nat) : Prop :=
  precision.infinity < magnitude → magnitude = precision.quietNaN 0

/-- Nothing ordinary is lost on the way to double precision, and only what is finite becomes finite. -/
theorem recast_wide {magnitude : Nat} (ordinary : single.Ordinary magnitude) :
    ∃ wide < 2 ^ (double.width - 1), single.recast double magnitude = wide ∧ double.recast single wide = magnitude ∧
      (wide < double.infinity → magnitude < single.infinity) := by
  rcases Nat.lt_trichotomy magnitude single.infinity with finite | rfl | unordered
  · obtain ⟨wide, wideFinite, same⟩ := exists_wide finite
    exact ⟨wide, wideFinite.trans double.infinity_lt, recast_of_value finite wideFinite same.symm,
      recast_of_value wideFinite finite same, fun _ => finite⟩
  · exact ⟨double.infinity, double.infinity_lt, recast_infinity .., recast_infinity ..,
      fun impossible => absurd impossible (Nat.lt_irrefl _)⟩
  · obtain rfl := ordinary unordered
    exact ⟨double.quietNaN 0, by decide, by decide, by decide, by decide⟩

end Precision

namespace FloatBits

theorem convert_eq {source : Precision} (target : Precision) (bits : FloatBits source) :
    bits.convert target = ofParts target bits.isNegative (source.recast target bits.magnitude) := by
  simp only [convert, isFinite, isNaN, Precision.recast, decide_eq_true_eq]

def Ordinary {precision : Precision} (bits : FloatBits precision) : Prop := precision.Ordinary bits.magnitude

theorem narrow_widen {bits : FloatBits .single} (ordinary : bits.Ordinary) :
    (bits.convert .double).convert .single = bits ∧
      ((bits.convert .double).isFinite = true → bits.isFinite = true) := by
  obtain ⟨wide, fits, widened, narrowed, finite⟩ := Precision.recast_wide ordinary
  have magnitude : (bits.convert .double).magnitude = wide := by
    rw [convert_eq, widened, magnitude_ofParts fits]
  have sign : (bits.convert .double).isNegative = bits.isNegative := by
    rw [convert_eq, widened, isNegative_ofParts fits]
  constructor
  · rw [convert_eq .single, magnitude, sign, narrowed, ofParts_parts]
  · rw [isFinite, isFinite, magnitude, decide_eq_true_eq, decide_eq_true_eq]
    exact finite

end FloatBits

theorem ArgValue.fitReal_widen (type : ScalarType) {precision : Precision} {bits : FloatBits precision}
    (ordinary : bits.Ordinary) : fitReal type (FloatBits.widen precision bits) precision = .ok bits := by
  cases precision with
  | double => rfl
  | single =>
    obtain ⟨back, finite⟩ := FloatBits.narrow_widen ordinary
    simp only [fitReal, FloatBits.widen, back, Bool.and_eq_true, Bool.not_eq_true']
    rw [if_neg]
    rintro ⟨wide, infinite⟩
    rw [finite wide] at infinite
    cases infinite

/-! ### Integers in 64 bits -/

namespace ArgValue

theorem integer?_ofScalar_signed {width : Width} (bits : BitVec width.bits) :
    (ofScalar (.signed width) bits).integer? = some bits.toInt := by
  have lowest := bits.le_toInt
  have highest := bits.toInt_lt
  have narrow : (2 : Int) ^ (width.bits - 1) ≤ 2 ^ 63 := by cases width <;> decide
  simp only [ofScalar, integer?]
  rw [Int64.toInt_ofInt_of_le (by omega) (by omega)]

theorem integer?_ofScalar_unsigned {width : Width} (bits : BitVec width.bits) :
    (ofScalar (.unsigned width) bits).integer? = some (bits.toNat : Int) := by
  have narrow : 2 ^ width.bits ≤ UInt64.size := by cases width <;> decide
  simp only [ofScalar, integer?]
  rw [UInt64.toNat_ofNat_of_lt' (bits.isLt.trans_le narrow)]

end ArgValue

theorem ofInt_toNat {count : Nat} (bits : BitVec count) : BitVec.ofInt count bits.toNat = bits := by
  rw [BitVec.ofInt_natCast, BitVec.ofNat_toNat, BitVec.setWidth_eq]

/-! ### The bytes of a host value -/

/-- The bits of a value as one number. The real part of a complex value has the lower half. -/
def ScalarType.image : (type : ScalarType) → type.Payload → Nat
  | .signed _, bits | .unsigned _, bits => BitVec.toNat bits
  | .real _, bits => BitVec.toNat bits
  | .complex precision, (re, im) => BitVec.toNat re + 2 ^ precision.width * BitVec.toNat im

theorem ScalarType.encode_eq_image (type : ScalarType) (payload : type.Payload) :
    type.encode payload = Bytes.littleEndian type.size (type.image payload) := by
  cases type with
  | signed width | unsigned width => rfl
  | real precision => rfl
  | complex precision =>
    obtain ⟨re, im⟩ := payload
    have whole : 2 ^ precision.width = 256 ^ (precision.width / 8) := by cases precision <;> rfl
    have small : BitVec.toNat re < 256 ^ (precision.width / 8) := whole ▸ re.isLt
    have size : (ScalarType.complex precision).size = precision.width / 8 + precision.width / 8 := by
      cases precision <;> rfl
    rw [encode, image, size, whole, Bytes.littleEndian_append _ _ small]

/-- No part of the value is a NaN, or it is the canonical one, of either sign. -/
def ScalarType.Ordinary : (type : ScalarType) → type.Payload → Prop
  | .signed _, _ | .unsigned _, _ => True
  | .real _, bits => FloatBits.Ordinary bits
  | .complex _, (re, im) => FloatBits.Ordinary re ∧ FloatBits.Ordinary im

theorem ArgValue.payloadFor_ofScalar {type : ScalarType} {payload : type.Payload}
    (ordinary : type.Ordinary payload) : (ofScalar type payload).payloadFor type = .ok payload := by
  cases type with
  | signed width =>
    have held : (ScalarType.signed width).holds (BitVec.toInt payload) = true :=
      (ScalarType.holds_iff _ _).mpr ⟨BitVec.le_toInt _, BitVec.toInt_lt⟩
    rw [payloadFor, integerFor_of_denotes (integer?_ofScalar_signed payload), if_pos held]
    exact congrArg Except.ok BitVec.ofInt_toInt
  | unsigned width =>
    have held : (ScalarType.unsigned width).holds (BitVec.toNat payload) = true :=
      (ScalarType.holds_iff _ _).mpr ⟨Int.natCast_nonneg _, mod_cast payload.isLt⟩
    rw [payloadFor, integerFor_of_denotes (integer?_ofScalar_unsigned payload), if_pos held]
    exact congrArg Except.ok (ofInt_toNat payload)
  | real precision => exact fitReal_widen _ ordinary
  | complex precision =>
    obtain ⟨re, im⟩ := payload
    obtain ⟨first, second⟩ := ordinary
    simp only [ofScalar, payloadFor, complexFor, fitReal_widen _ first, fitReal_widen _ second]
    rfl

/-- A scalar of the host comes out of its own type as it went in. -/
theorem host_scalars_kept (home : UInt64) {type : ScalarType} {payload : type.Payload}
    (ordinary : type.Ordinary payload) :
    marshal home (.ofScalar type payload) (.scalar type) = .ok (.value (.scalar type payload)) ∧
      (Cell.scalar type payload).bytes = Bytes.littleEndian type.size (type.image payload) :=
  ⟨marshal_of_payloadFor (ArgValue.payloadFor_ofScalar ordinary), type.encode_eq_image payload⟩

/-- The smallest negative number, which has no leading digit in single precision but has one in double precision,
and the canonical NaN. -/
theorem host_scalars_kept_tiny :
    let pair : (ScalarType.complex .single).Payload := ((0x80000001 : BitVec 32), (0x7FC00000 : BitVec 32))
    (ScalarType.complex .single).Ordinary pair ∧
      (∃ slot, marshal 0 (.ofScalar (.complex .single) pair) (.scalar (.complex .single)) = .ok slot ∧
        slot.cell.bytes = [0x01, 0, 0, 0x80, 0, 0, 0xC0, 0x7F]) := by
  intro pair
  have ordinary : (ScalarType.complex .single).Ordinary pair := by
    constructor
    · intro unordered
      exact absurd unordered (by decide)
    · intro _
      rfl
  obtain ⟨converted, bytes⟩ := host_scalars_kept 0 ordinary
  exact ⟨ordinary, _, converted, bytes.trans (by decide)⟩

end KernelLaunch
