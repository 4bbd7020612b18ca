import KernelLaunch.Bytes.Lemmas
import KernelLaunch.Proofs.NativeEncoding

/-! Integers as arguments. A value may hold its integer signed or unsigned, and the declared type may have
another width and sign: what counts is only which integer it is. The bytes are said here by residues and the
way back by two's complement, neither through bit vectors. -/

namespace KernelLaunch

/-- The integers that a type has; the types of other numbers are not asked. -/
def ScalarType.Contains : ScalarType → Int → Prop
  | .signed width, number => -2 ^ (width.bits - 1) ≤ number ∧ number < 2 ^ (width.bits - 1)
  | .unsigned width, number => 0 ≤ number ∧ number < 2 ^ width.bits
  | .real _, _ | .complex _, _ => False

instance (type : ScalarType) (number : Int) : Decidable (type.Contains number) :=
  match type with
  | .signed width => inferInstanceAs (Decidable (-2 ^ (width.bits - 1) ≤ number ∧ number < 2 ^ (width.bits - 1)))
  | .unsigned width => inferInstanceAs (Decidable (0 ≤ number ∧ number < 2 ^ width.bits))
  | .real _ | .complex _ => inferInstanceAs (Decidable False)

/-- The integer that bytes are in two's complement: the upper half of the patterns stands for negative ones. -/
def Bytes.toInt (bytes : Bytes) : Int :=
  if 2 * bytes.toNat < 256 ^ bytes.length then bytes.toNat else bytes.toNat - 256 ^ bytes.length

/-- The integer that bytes are to a reader of the type. -/
def ScalarType.decode : ScalarType → Bytes → Int
  | .signed _, bytes => bytes.toInt
  | _, bytes => bytes.toNat

/-- As many bytes as the type has, little-endian, of the residue of an integer. -/
def ScalarType.residue (type : ScalarType) (number : Int) : Bytes :=
  Bytes.littleEndian type.size (number % 256 ^ type.size).toNat

theorem Width.half_eq (width : Width) : (width.half : Int) = 2 ^ (width.bits - 1) := by
  cases width <;> rfl

theorem Width.pow_bits (width : Width) : (2 : Int) ^ width.bits = 2 * 2 ^ (width.bits - 1) := by
  cases width <;> rfl

/-- A pattern of the width is as many bytes. -/
theorem Width.pow_size (width : Width) : 256 ^ (width.bits / 8) = 2 ^ width.bits := by
  cases width <;> rfl

theorem ScalarType.holds_iff (type : ScalarType) (number : Int) :
    type.holds number = true ↔ type.Contains number := by
  cases type with
  | signed width => simp only [holds, Contains, decide_eq_true_eq, Width.half_eq]
  | unsigned width => simp only [holds, Contains, decide_eq_true_eq, Width.half_eq, Width.pow_bits]
  | real _ | complex _ => simp only [holds, Contains, Bool.false_eq_true]

theorem length_residue (type : ScalarType) (number : Int) : (type.residue number).length = type.size :=
  Bytes.length_littleEndian ..

theorem toNat_residue (type : ScalarType) (number : Int) :
    ((type.residue number).toNat : Int) = number % 256 ^ type.size := by
  have positive : (0 : Int) < 256 ^ type.size := by positivity
  have nonneg := Int.emod_nonneg number (ne_of_gt positive)
  have small : (number % 256 ^ type.size).toNat < 256 ^ type.size := by
    rw [Int.toNat_lt nonneg]
    push_cast
    exact Int.emod_lt_of_pos number positive
  rw [ScalarType.residue, Bytes.toNat_littleEndian, Nat.mod_eq_of_lt small, Int.toNat_of_nonneg nonneg]

/-- An integer below zero has the residue of the upper half that is a whole width above it. -/
theorem toInt_residue {width : Width} {number : Int} (contained : (ScalarType.signed width).Contains number) :
    ((ScalarType.signed width).residue number).toInt = number := by
  have read := toNat_residue (.signed width) number
  have limit : (256 : Int) ^ (ScalarType.signed width).size = 2 * 2 ^ (width.bits - 1) := by
    rw [← Width.pow_bits]
    exact mod_cast width.pow_size
  obtain ⟨least, greatest⟩ := contained
  rw [limit] at read
  unfold Bytes.toInt
  rw [length_residue]
  zify
  rw [limit, read]
  generalize (2 : Int) ^ (width.bits - 1) = half at least greatest
  by_cases negative : number < 0
  · have wrapped : number % (2 * half) = number + 2 * half := by
      rw [← Int.add_emod_right, Int.emod_eq_of_lt (by omega) (by omega)]
    rw [wrapped, if_neg (by omega)]
    omega
  · have kept : number % (2 * half) = number := Int.emod_eq_of_lt (by omega) (by omega)
    rw [kept, if_pos (by omega)]

theorem decode_residue {type : ScalarType} {number : Int} (contained : type.Contains number) :
    type.decode (type.residue number) = number := by
  cases type with
  | signed width => exact toInt_residue contained
  | unsigned width =>
    have read := toNat_residue (.unsigned width) number
    have limit : (256 : Int) ^ (ScalarType.unsigned width).size = 2 ^ width.bits := mod_cast width.pow_size
    rw [limit, Int.emod_eq_of_lt contained.1 contained.2] at read
    exact read
  | real _ | complex _ => exact contained.elim

namespace ArgValue

variable {value : ArgValue} {number : Int}

/-! ### A value by the integer that it denotes -/

theorem integerFor_of_denotes (denotes : value.integer? = some number) (type : ScalarType) :
    value.integerFor type =
      if type.holds number then .ok number else .error (.integerOutOfRange type number) := by
  rw [integerFor, denotes]

theorem realFor_of_denotes (denotes : value.integer? = some number) (type : ScalarType) (precision : Precision) :
    value.realFor type precision =
      match precision.exactInteger? number with
      | some bits => .ok bits
      | none => .error (.integerOutOfRange type number) := by
  cases value with
  | int _ | uint _ =>
    cases exact : precision.exactInteger? number with
    | none | some _ => simp only [realFor, denotes, exact]
  | float _ | complex _ _ | bool _ | array _ => cases denotes

theorem complexFor_of_denotes (denotes : value.integer? = some number) (type : ScalarType)
    (precision : Precision) :
    value.complexFor type precision = (value.realFor type precision).map fun re =>
      (re, FloatBits.ofParts precision false 0) := by
  cases value with
  | int _ | uint _ => rfl
  | float _ | complex _ _ | bool _ | array _ => cases denotes

theorem payloadFor_congr {other : ArgValue} (denotes : value.integer? = some number)
    (same : other.integer? = some number) (type : ScalarType) : value.payloadFor type = other.payloadFor type := by
  cases type with
  | signed width | unsigned width =>
    simp only [payloadFor, integerFor_of_denotes denotes, integerFor_of_denotes same]
  | real precision => exact (realFor_of_denotes denotes ..).trans (realFor_of_denotes same ..).symm
  | complex precision =>
    have reals : value.realFor (.complex precision) precision = other.realFor (.complex precision) precision :=
      (realFor_of_denotes denotes ..).trans (realFor_of_denotes same ..).symm
    calc value.complexFor (.complex precision) precision
      _ = (value.realFor (.complex precision) precision).map _ := complexFor_of_denotes denotes ..
      _ = (other.realFor (.complex precision) precision).map _ := by rw [reals]
      _ = other.complexFor (.complex precision) precision := (complexFor_of_denotes same ..).symm

end ArgValue

/-! ### The cell of an integer -/

variable {home : UInt64} {value : ArgValue} {number : Int} {type : ScalarType}

/-- The pattern of an integer in a width is its residue. -/
theorem encode_ofInt (width : Width) (number : Int) :
    Bytes.littleEndian (width.bits / 8) (BitVec.ofInt width.bits number).toNat =
      Bytes.littleEndian (width.bits / 8) (number % 256 ^ (width.bits / 8)).toNat := by
  have limit : (256 : Int) ^ (width.bits / 8) = ((2 ^ width.bits : Nat) : Int) := mod_cast width.pow_size
  rw [BitVec.toNat_ofInt, limit]

theorem marshal_of_payloadFor {payload : type.Payload} (converted : value.payloadFor type = .ok payload) :
    marshal home value (.scalar type) = .ok (.value (.scalar type payload)) := by
  simp only [marshal, converted, Except.map]

theorem marshal_contained (denotes : value.integer? = some number) (contained : type.Contains number) :
    ∃ slot, marshal home value (.scalar type) = .ok slot ∧ slot.cell.bytes = type.residue number := by
  have held := (type.holds_iff number).mpr contained
  cases type with
  | signed width | unsigned width =>
    have fits := (ArgValue.integerFor_of_denotes denotes _).trans (if_pos held)
    exact ⟨_, marshal_of_payloadFor (congrArg (Except.map _) fits), encode_ofInt width number⟩
  | real _ | complex _ => exact contained.elim

theorem marshal_not_contained (integral : type.isSigned ∨ type.isUnsigned)
    (denotes : value.integer? = some number) (beyond : ¬ type.Contains number) :
    marshal home value (.scalar type) = .error (.integerOutOfRange type number) := by
  have unheld : ¬ type.holds number = true := fun held => beyond ((type.holds_iff number).mp held)
  cases type with
  | signed width | unsigned width =>
    have refused := (ArgValue.integerFor_of_denotes denotes _).trans (if_neg unheld)
    simp only [marshal, ArgValue.payloadFor, refused, Except.map]
  | real _ | complex _ => rcases integral with signed | unsigned <;> contradiction

/-- An integer becomes a cell of an integer type just when the type has it, and the cell is read back as that
integer; otherwise it is reported with its type and in decimal. Whether the value holds it signed or not makes
no difference to any type, also of the other numbers. -/
theorem integers_marshaled (home : UInt64) {value : ArgValue} {number : Int}
    (denotes : value.integer? = some number) :
    (∀ type : ScalarType, type.isSigned ∨ type.isUnsigned →
      ((∃ slot, marshal home value (.scalar type) = .ok slot) ↔ type.Contains number) ∧
      (∀ slot, marshal home value (.scalar type) = .ok slot →
        slot.cell.bytes = type.residue number ∧ slot.cell.size = type.size ∧
          type.decode slot.cell.bytes = number) ∧
      (¬ type.Contains number →
        marshal home value (.scalar type) = .error (.integerOutOfRange type number) ∧
          (MarshalError.integerOutOfRange type number).message =
            "value " ++ toString number ++ " out of range for " ++ type.name)) ∧
    ∀ other : ArgValue, other.integer? = some number → ∀ type : ScalarType,
      marshal home other (.scalar type) = marshal home value (.scalar type) := by
  constructor
  · intro type integral
    have accepts : (∃ slot, marshal home value (.scalar type) = .ok slot) ↔ type.Contains number := by
      constructor
      · intro ⟨slot, converted⟩
        apply Classical.not_not.mp
        intro beyond
        rw [marshal_not_contained integral denotes beyond] at converted
        cases converted
      · intro contained
        obtain ⟨slot, converted, _⟩ := marshal_contained denotes contained
        exact ⟨slot, converted⟩
    refine ⟨accepts, ?_, fun beyond => ⟨marshal_not_contained integral denotes beyond, rfl⟩⟩
    intro slot converted
    have contained := accepts.mp ⟨slot, converted⟩
    obtain ⟨own, same, bytes⟩ := marshal_contained denotes contained
    rw [converted] at same
    obtain rfl := Except.ok.inj same
    refine ⟨bytes, ?_, ?_⟩
    · rw [Cell.size, bytes, length_residue]
    · rw [bytes, decode_residue contained]
  · intro other same type
    simp only [marshal, ArgValue.payloadFor_congr same denotes]

/-- The least signed word is the byte pattern of the first integer that a signed word no longer holds. -/
theorem integers_marshaled_extremes :
    (ArgValue.int Int64.minValue).integer? = some (-0x8000000000000000) ∧
      (∃ slot, marshal 0 (.int Int64.minValue) (.scalar (.signed .bits64)) = .ok slot ∧
        slot.cell.bytes = [0, 0, 0, 0, 0, 0, 0, 0x80]) ∧
      (ArgValue.uint 0x8000000000000000).integer? = some 0x8000000000000000 ∧
      marshal 0 (.uint 0x8000000000000000) (.scalar (.signed .bits64)) =
        .error (.integerOutOfRange (.signed .bits64) 0x8000000000000000) := by
  have least : (ArgValue.int Int64.minValue).integer? = some (-0x8000000000000000) := rfl
  have beyond : (ArgValue.uint 0x8000000000000000).integer? = some 0x8000000000000000 := rfl
  have contained : (ScalarType.signed .bits64).Contains (-0x8000000000000000) := by decide
  have missing : ¬ (ScalarType.signed .bits64).Contains 0x8000000000000000 := by decide
  obtain ⟨accepts, bytes, _⟩ := (integers_marshaled 0 least).1 (.signed .bits64) (.inl rfl)
  obtain ⟨slot, converted⟩ := accepts.mpr contained
  refine ⟨least, ⟨slot, converted, (bytes slot converted).1⟩, beyond, ?_⟩
  exact (((integers_marshaled 0 beyond).1 (.signed .bits64) (.inl rfl)).2.2 missing).1

end KernelLaunch
