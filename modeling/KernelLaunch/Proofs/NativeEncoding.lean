import KernelLaunch.Marshal

/-! Which bytes stand for which value. The relation is stated on values and bytes alone; that
conversion respects it is proved here, and that a whole argument list is converted in order. -/

namespace KernelLaunch

def FloatBits.inFormat : (precision : Precision) → FloatBits .double → FloatBits precision
  | .double, bits => bits
  | .single, bits => bits.convert .single

/-- The bits of the real number that a value denotes. An integer has bits only in a format that
holds it exactly. -/
inductive RealBits (precision : Precision) : ArgValue → FloatBits precision → Prop where
  | float (bits : FloatBits .double) : RealBits precision (.float bits) (FloatBits.inFormat precision bits)
  | integer {value : ArgValue} {number : Int} {bits : FloatBits precision}
      (denotes : value.integer? = some number) (exact : precision.exactInteger? number = some bits) :
      RealBits precision value bits

/-- The native bytes of a value in a type, where a descriptor of the value would be kept at `home`:
little-endian, integers in two's complement, the real part of a complex number first. -/
inductive Encodes (home : UInt64) : ArgType → ArgValue → Bytes → Prop where
  | signed {width : Width} {value : ArgValue} {number : Int} (denotes : value.integer? = some number)
      (held : -(width.half : Int) ≤ number ∧ number < width.half) :
      Encodes home (.scalar (.signed width)) value
        (Bytes.littleEndian (width.bits / 8) (BitVec.ofInt width.bits number).toNat)
  | unsigned {width : Width} {value : ArgValue} {number : Int} (denotes : value.integer? = some number)
      (held : 0 ≤ number ∧ number < 2 * width.half) :
      Encodes home (.scalar (.unsigned width)) value
        (Bytes.littleEndian (width.bits / 8) (BitVec.ofInt width.bits number).toNat)
  | real {precision : Precision} {value : ArgValue} {bits : FloatBits precision}
      (number : RealBits precision value bits) :
      Encodes home (.scalar (.real precision)) value
        (Bytes.littleEndian (precision.width / 8) bits.toNat)
  | complex {precision : Precision} (re im : FloatBits .double) :
      Encodes home (.scalar (.complex precision)) (.complex re im)
        (Bytes.littleEndian (precision.width / 8) (FloatBits.inFormat precision re).toNat
          ++ Bytes.littleEndian (precision.width / 8) (FloatBits.inFormat precision im).toNat)
  | bareReal {precision : Precision} {value : ArgValue} {bits : FloatBits precision}
      (number : RealBits precision value bits) :
      Encodes home (.scalar (.complex precision)) value
        (Bytes.littleEndian (precision.width / 8) bits.toNat
          ++ List.replicate (precision.width / 8) 0)
  | array (view : ArrayView) :
      Encodes home (.array view.element view.rank) (.array view)
        (Bytes.littleEndian slotSize home.toNat)

theorem Bytes.littleEndian_zero (count : Nat) : littleEndian count 0 = List.replicate count 0 := by
  induction count with
  | zero => rfl
  | succ count ih =>
    rw [littleEndian, Nat.zero_div, ih]
    rfl

namespace ArgValue

theorem integerFor_eq_ok {type : ScalarType} {value : ArgValue} {number : Int}
    (converted : value.integerFor type = .ok number) :
    value.integer? = some number ∧ type.holds number = true := by
  simp only [integerFor] at converted
  cases denotes : value.integer? with
  | none => simp only [denotes, reduceCtorEq] at converted
  | some integer =>
    simp only [denotes] at converted
    split at converted
    · rename_i held
      obtain rfl := Except.ok.inj converted
      exact ⟨rfl, held⟩
    · cases converted

theorem fitReal_eq_ok {type : ScalarType} {bits : FloatBits .double} {precision : Precision}
    {fitted : FloatBits precision} (converted : fitReal type bits precision = .ok fitted) :
    fitted = FloatBits.inFormat precision bits := by
  cases precision with
  | double => exact (Except.ok.inj converted).symm
  | single =>
    simp only [fitReal] at converted
    split at converted
    · cases converted
    · exact (Except.ok.inj converted).symm

theorem realFor_eq_ok {type : ScalarType} {precision : Precision} {value : ArgValue}
    {bits : FloatBits precision} (converted : value.realFor type precision = .ok bits) :
    RealBits precision value bits := by
  unfold realFor at converted
  split at converted
  · obtain rfl := fitReal_eq_ok converted
    exact .float _
  · split at converted
    · cases converted
    · rename_i integer denotes
      cases exact : precision.exactInteger? integer with
      | none => simp only [exact, reduceCtorEq] at converted
      | some found =>
        simp only [exact] at converted
        obtain rfl := Except.ok.inj converted
        exact .integer denotes exact

end ArgValue

/-- The positive zero that completes a bare real number has no bit set. -/
theorem FloatBits.toNat_zero (precision : Precision) :
    BitVec.toNat (FloatBits.ofParts precision false 0) = 0 := by
  cases precision <;> rfl

theorem encodes_of_complexFor {home : UInt64} {type : ScalarType} {precision : Precision}
    {value : ArgValue} {re im : FloatBits precision}
    (converted : value.complexFor type precision = .ok (re, im)) :
    Encodes home (.scalar (.complex precision)) value
      (Bytes.littleEndian (precision.width / 8) re.toNat
        ++ Bytes.littleEndian (precision.width / 8) im.toNat) := by
  unfold ArgValue.complexFor at converted
  split at converted
  · obtain ⟨first, reFits, rest⟩ := bind_eq_ok.mp converted
    obtain ⟨second, imFits, pair⟩ := bind_eq_ok.mp rest
    cases pair
    rw [ArgValue.fitReal_eq_ok reFits, ArgValue.fitReal_eq_ok imFits]
    exact .complex _ _
  · obtain ⟨bits, real, pair⟩ := bind_eq_ok.mp converted
    cases pair
    rw [FloatBits.toNat_zero, Bytes.littleEndian_zero]
    exact .bareReal (ArgValue.realFor_eq_ok real)

theorem encodes_of_payloadFor {home : UInt64} {value : ArgValue} {type : ScalarType}
    {payload : type.Payload} (converted : value.payloadFor type = .ok payload) :
    Encodes home (.scalar type) value (type.encode payload) := by
  cases type with
  | signed width =>
    obtain ⟨number, integer, rfl⟩ := map_eq_ok.mp converted
    obtain ⟨denotes, held⟩ := ArgValue.integerFor_eq_ok integer
    simp only [ScalarType.holds, decide_eq_true_eq] at held
    exact .signed denotes held
  | unsigned width =>
    obtain ⟨number, integer, rfl⟩ := map_eq_ok.mp converted
    obtain ⟨denotes, held⟩ := ArgValue.integerFor_eq_ok integer
    simp only [ScalarType.holds, decide_eq_true_eq] at held
    exact .unsigned denotes held
  | real precision => exact .real (ArgValue.realFor_eq_ok converted)
  | complex precision => exact encodes_of_complexFor converted

/-- Only scalars and arrays are converted, an array only at its own element type and rank. -/
theorem marshal_eq_ok {home : UInt64} {value : ArgValue} {type : ArgType} {slot : Slot}
    (converted : marshal home value type = .ok slot) :
    (∃ scalar payload, type = .scalar scalar ∧ value.payloadFor scalar = .ok payload ∧
      slot = .value (.scalar scalar payload)) ∨
    ∃ view, value = .array view ∧ type = .array view.element view.rank ∧
      slot = .array (.ofView view) home := by
  cases type with
  | scalar scalar =>
    obtain ⟨payload, fitted, same⟩ := map_eq_ok.mp converted
    exact .inl ⟨scalar, payload, rfl, fitted, same.symm⟩
  | array element rank =>
    cases value with
    | array view =>
      simp only [marshal] at converted
      split at converted
      · cases converted
      · rename_i sameRank
        split at converted
        · cases converted
        · rename_i sameElement
          obtain rfl := Classical.not_not.mp sameRank
          obtain rfl := Classical.not_not.mp sameElement
          exact .inr ⟨view, rfl, rfl, (Except.ok.inj converted).symm⟩
    | int _ | uint _ | float _ | complex _ _ | bool _ => cases converted
  | boolean => cases converted
  | named name => cases converted

theorem encodes_of_marshal {home : UInt64} {value : ArgValue} {type : ArgType} {slot : Slot}
    (converted : marshal home value type = .ok slot) : Encodes home type value slot.cell.bytes := by
  obtain ⟨scalar, payload, rfl, fitted, rfl⟩ | ⟨view, rfl, rfl, rfl⟩ := marshal_eq_ok converted
  · exact encodes_of_payloadFor fitted
  · exact .array view

theorem nativeSize_of_marshal {home : UInt64} {value : ArgValue} {type : ArgType} {slot : Slot}
    (converted : marshal home value type = .ok slot) : type.nativeSize? = some slot.cell.size := by
  obtain ⟨scalar, payload, rfl, fitted, rfl⟩ | ⟨view, rfl, rfl, rfl⟩ := marshal_eq_ok converted
  · exact congrArg some (scalar.length_encode payload).symm
  · exact congrArg some (Bytes.length_littleEndian slotSize home.toNat).symm

namespace ArgValue

variable {type : ScalarType} {value : ArgValue} {cause : MarshalError}

end ArgValue

def refusal? (homes : Nat → UInt64) : (ArgValue × ArgType) × Nat → Option (Nat × MarshalError)
  | ((value, type), index) =>
    match marshal (homes index) value type with
    | .error cause => some (index, cause)
    | .ok _ => none

/-- Conversion fails with the first argument in declared order that is refused. -/
theorem marshalFrom_eq_error_iff {homes : Nat → UInt64} {index : Nat} {values : List ArgValue}
    {types : List ArgType} {failure : Nat × MarshalError} :
    marshalFrom homes index values types = .error failure ↔
      ((values.zip types).zipIdx index).findSome? (refusal? homes) = some failure := by
  induction values generalizing index types with
  | nil => simp [marshalFrom]
  | cons value values ih =>
    cases types with
    | nil => simp [marshalFrom]
    | cons type types =>
      simp only [marshalFrom, List.zip_cons_cons, List.zipIdx_cons, List.findSome?_cons, refusal?]
      cases converted : marshal (homes index) value type with
      | error cause => simp
      | ok slot =>
        simp only [← ih]
        cases marshalFrom homes (index + 1) values types <;> simp

theorem refused_of_marshalAll {homes : Nat → UInt64} {values : List ArgValue} {types : List ArgType}
    {index : Nat} {cause : MarshalError}
    (unmarshaled : marshalAll homes values types = .error (index, cause)) :
    ∃ value type, values[index]? = some value ∧ types[index]? = some type ∧
      marshal (homes index) value type = .error cause := by
  obtain ⟨⟨⟨value, type⟩, place⟩, member, refused⟩ :=
    List.exists_of_findSome?_eq_some (marshalFrom_eq_error_iff.mp unmarshaled)
  have paired := List.mem_zipIdx_iff_getElem?.mp member
  obtain ⟨valueAt, typeAt⟩ := List.getElem?_zip_eq_some.mp paired
  simp only [refusal?] at refused
  split at refused
  · rename_i failed
    cases refused
    exact ⟨value, type, valueAt, typeAt, failed⟩
  · cases refused

/-- When conversion succeeds there is one slot for each argument, and it is that argument's own. -/
theorem marshalFrom_eq_ok {homes : Nat → UInt64} {index : Nat} {values : List ArgValue}
    {types : List ArgType} {slots : List Slot}
    (converted : marshalFrom homes index values types = .ok slots) :
    slots.length = (values.zip types).length ∧
      ∀ (place : Nat) (value : ArgValue) (type : ArgType),
        values[place]? = some value → types[place]? = some type →
        ∃ slot, slots[place]? = some slot ∧ marshal (homes (index + place)) value type = .ok slot := by
  induction values generalizing index types slots with
  | nil =>
    obtain rfl := Except.ok.inj converted
    refine ⟨rfl, ?_⟩
    intro place value type impossible
    simp at impossible
  | cons head values ih =>
    cases types with
    | nil =>
      obtain rfl := Except.ok.inj converted
      refine ⟨rfl, ?_⟩
      intro place value type _ impossible
      simp at impossible
    | cons headType types =>
      simp only [marshalFrom] at converted
      cases first : marshal (homes index) head headType with
      | error cause => simp only [first, reduceCtorEq] at converted
      | ok slot =>
        cases rest : marshalFrom homes (index + 1) values types with
        | error failure => simp only [first, rest, reduceCtorEq] at converted
        | ok later =>
          simp only [first, rest] at converted
          obtain rfl := Except.ok.inj converted
          obtain ⟨length, each⟩ := ih rest
          refine ⟨by simp only [List.length_cons, List.zip_cons_cons, length], ?_⟩
          intro place value type valueAt typeAt
          cases place with
          | zero =>
            obtain rfl := Option.some.inj valueAt
            obtain rfl := Option.some.inj typeAt
            exact ⟨slot, rfl, first⟩
          | succ place =>
            have shifted : index + (place + 1) = index + 1 + place := by omega
            rw [shifted]
            exact each place value type valueAt typeAt

theorem marshal_of_getElem? {homes : Nat → UInt64} {values : List ArgValue} {types : List ArgType}
    {slots : List Slot} (converted : marshalAll homes values types = .ok slots) {index : Nat} {slot : Slot}
    (taken : slots[index]? = some slot) :
    ∃ value type, values[index]? = some value ∧ types[index]? = some type ∧
      marshal (homes index) value type = .ok slot := by
  obtain ⟨length, each⟩ := marshalFrom_eq_ok converted
  obtain ⟨inside, _⟩ := List.getElem?_eq_some_iff.mp taken
  rw [length, List.length_zip, Nat.lt_min] at inside
  have valueAt := List.getElem?_eq_getElem inside.1
  have typeAt := List.getElem?_eq_getElem inside.2
  obtain ⟨other, otherAt, own⟩ := each index _ _ valueAt typeAt
  rw [taken] at otherAt
  obtain rfl := Option.some.inj otherAt
  rw [Nat.zero_add] at own
  exact ⟨_, _, valueAt, typeAt, own⟩

end KernelLaunch
