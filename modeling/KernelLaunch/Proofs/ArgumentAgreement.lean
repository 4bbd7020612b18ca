import KernelLaunch.Proofs.WriteOrder
import KernelLaunch.Proofs.NativeEncoding

/-! Arguments against their declared types. The bytes of a cell and the room for it are computed apart, the
one from the value that was converted and the other from the declared type alone; here they are shown to
agree for every argument of every list. Which kinds of value a type takes is said without the conversion. -/

namespace KernelLaunch

/-- The value and the declared type of the argument at an index. -/
def Argument (values : List ArgValue) (types : List ArgType) (index : Nat) (value : ArgValue)
    (type : ArgType) : Prop :=
  values[index]? = some value ∧ types[index]? = some type

def Marshals (home : UInt64) (value : ArgValue) (type : ArgType) : Prop :=
  ∃ slot, marshal home value type = .ok slot

/-- The slot of an argument: a cell of exactly its scalar type, or the address of a descriptor of its array,
which the slot owns. -/
inductive Native (home : UInt64) : ArgValue → ArgType → Slot → Prop where
  | scalar (value : ArgValue) (type : ScalarType) (payload : type.Payload) :
      Native home value (.scalar type) (.value (.scalar type payload))
  | array (view : ArrayView) :
      Native home (.array view) (.array view.element view.rank) (.array (.ofView view) home)

/-- The types that may take values of a kind. A flag is taken by none, and no kind is taken by a type without
a native form. -/
def ValueKind.TakenBy : ValueKind → ArgType → Prop
  | .int, type | .uint, type => ∃ scalar, type = .scalar scalar
  | .float, type => ∃ precision, type = .scalar (.real precision) ∨ type = .scalar (.complex precision)
  | .complex, type => ∃ precision, type = .scalar (.complex precision)
  | .bool, _ => False
  | .array element rank, type => type = .array element rank

variable {home : UInt64} {value : ArgValue} {type : ArgType}

/-! ### One argument -/

theorem native_of_marshal {slot : Slot} (converted : marshal home value type = .ok slot) :
    Native home value type slot := by
  obtain ⟨scalar, payload, rfl, _, rfl⟩ | ⟨view, rfl, rfl, rfl⟩ := marshal_eq_ok converted
  · exact .scalar value scalar payload
  · exact .array view

theorem ArgValue.takenBy_of_integer {number : Int} (denotes : value.integer? = some number)
    (scalar : ScalarType) : value.kind.TakenBy (.scalar scalar) := by
  cases value with
  | int _ | uint _ => exact ⟨scalar, rfl⟩
  | float _ | complex _ _ | bool _ | array _ => cases denotes

theorem ArgValue.takenBy_of_real {precision : Precision} {bits : FloatBits precision}
    (number : RealBits precision value bits) {scalar : ScalarType}
    (suited : scalar = .real precision ∨ scalar = .complex precision) :
    value.kind.TakenBy (.scalar scalar) := by
  cases number with
  | float bits =>
    refine ⟨precision, ?_⟩
    apply suited.imp
    · exact congrArg ArgType.scalar
    · exact congrArg ArgType.scalar
  | integer denotes _ => exact takenBy_of_integer denotes scalar

/-- What is converted is of a kind that the type may take. -/
theorem takenBy_of_marshals (marshals : Marshals home value type) : value.kind.TakenBy type := by
  obtain ⟨slot, converted⟩ := marshals
  have encoded := encodes_of_marshal converted
  generalize slot.cell.bytes = bytes at encoded
  cases encoded with
  | signed denotes _ | unsigned denotes _ => exact ArgValue.takenBy_of_integer denotes _
  | real number => exact ArgValue.takenBy_of_real number (.inl rfl)
  | complex re im => exact ⟨_, rfl⟩
  | bareReal number => exact ArgValue.takenBy_of_real number (.inr rfl)
  | array view => rfl

theorem marshals_array_iff {element : ScalarType} {rank : Nat} :
    Marshals home value (.array element rank) ↔
      ∃ view, value = .array view ∧ view.element = element ∧ view.rank = rank := by
  constructor
  · intro ⟨slot, converted⟩
    obtain ⟨scalar, _, impossible, _⟩ | ⟨view, given, same, _⟩ := marshal_eq_ok converted
    · cases impossible
    · cases same
      exact ⟨view, given, rfl, rfl⟩
  · intro ⟨view, given, sameElement, sameRank⟩
    subst given sameElement sameRank
    refine ⟨.array (.ofView view) home, ?_⟩
    simp only [marshal, ne_eq, not_true_eq_false, if_false]

/-! ### A list of arguments -/

variable {homes : Nat → UInt64} {values : List ArgValue} {types : List ArgType}

theorem index_of_refusal? {entry : (ArgValue × ArgType) × Nat} {index : Nat} {cause : MarshalError}
    (found : refusal? homes entry = some (index, cause)) : entry.2 = index := by
  simp only [refusal?] at found
  split at found
  · cases found
    rfl
  · cases found

theorem marshals_of_refusal?_none {index : Nat} (unrefused : refusal? homes ((value, type), index) = none) :
    Marshals (homes index) value type := by
  simp only [refusal?] at unrefused
  split at unrefused
  · cases unrefused
  · rename_i slot converted
    exact ⟨slot, converted⟩

/-- The first argument that is refused is reported for its own cause; all arguments before it are converted. -/
theorem first_of_marshalAll {index : Nat} {cause : MarshalError}
    (failed : marshalAll homes values types = .error (index, cause)) :
    (∃ value type, Argument values types index value type ∧ marshal (homes index) value type = .error cause) ∧
      ∀ earlier < index, ∀ value type, Argument values types earlier value type →
        Marshals (homes earlier) value type := by
  constructor
  · obtain ⟨value, type, valueAt, typeAt, refused⟩ := refused_of_marshalAll failed
    exact ⟨value, type, ⟨valueAt, typeAt⟩, refused⟩
  · intro earlier before value type found
    obtain ⟨front, entry, rest, searched, refused, unrefused⟩ :=
      List.findSome?_eq_some_iff.mp (marshalFrom_eq_error_iff.mp failed)
    -- every entry carries its own place, so as many entries stand in front as the reported index says
    have stopped : (values.zip types).zipIdx[front.length]? = some entry := by
      rw [searched, List.getElem?_append_right (Nat.le_refl _), Nat.sub_self, List.getElem?_cons_zero]
    have place : front.length = index := by
      rw [← index_of_refusal? refused]
      obtain ⟨pair, _, rfl⟩ := Option.map_eq_some_iff.mp (List.getElem?_zipIdx.symm.trans stopped)
      exact (Nat.zero_add _).symm
    have paired : (values.zip types)[earlier]? = some (value, type) := List.getElem?_zip_eq_some.mpr found
    have listed : (values.zip types).zipIdx[earlier]? = some ((value, type), earlier) := by
      rw [List.getElem?_zipIdx, paired, Option.map_some, Nat.zero_add]
    rw [searched, List.getElem?_append_left (by omega)] at listed
    apply marshals_of_refusal?_none
    exact unrefused _ (List.mem_of_getElem? listed)

theorem not_refused_of_marshals {cause : MarshalError} (marshals : Marshals home value type) :
    marshal home value type ≠ .error cause := by
  obtain ⟨slot, converted⟩ := marshals
  rw [converted]
  exact nofun

theorem marshalAll_accepts_iff :
    (∃ slots, marshalAll homes values types = .ok slots) ↔
      ∀ index value type, Argument values types index value type → Marshals (homes index) value type := by
  constructor
  · intro ⟨slots, converted⟩ index value type found
    obtain ⟨slot, _, own⟩ := (marshalFrom_eq_ok converted).2 index value type found.1 found.2
    rw [Nat.zero_add] at own
    exact ⟨slot, own⟩
  · intro each
    cases all : marshalAll homes values types with
    | ok slots => exact ⟨slots, rfl⟩
    | error failure =>
      obtain ⟨⟨value, type, found, refused⟩, _⟩ := first_of_marshalAll all
      exact absurd refused (not_refused_of_marshals (each failure.1 value type found))

theorem marshalAll_eq_error_iff {index : Nat} {cause : MarshalError} :
    marshalAll homes values types = .error (index, cause) ↔
      (∃ value type, Argument values types index value type ∧ marshal (homes index) value type = .error cause) ∧
      ∀ earlier < index, ∀ value type, Argument values types earlier value type →
        Marshals (homes earlier) value type := by
  constructor
  · exact first_of_marshalAll
  · intro ⟨⟨value, type, found, refused⟩, before⟩
    cases all : marshalAll homes values types with
    | ok slots =>
      have each := marshalAll_accepts_iff.mp ⟨slots, all⟩ index value type found
      exact absurd refused (not_refused_of_marshals each)
    | error failure =>
      -- both arguments are refused and all before them converted, so neither comes before the other
      obtain ⟨⟨other, otherType, present, otherRefused⟩, otherBefore⟩ := first_of_marshalAll all
      have notLater : ¬ index < failure.1 := by
        intro smaller
        exact not_refused_of_marshals (otherBefore index smaller value type found) refused
      have notEarlier : ¬ failure.1 < index := by
        intro smaller
        exact not_refused_of_marshals (before failure.1 smaller other otherType present) otherRefused
      obtain rfl : failure.1 = index := by omega
      obtain rfl := Option.some.inj (found.1.symm.trans present.1)
      obtain rfl := Option.some.inj (found.2.symm.trans present.2)
      rw [refused] at otherRefused
      obtain rfl := Except.error.inj otherRefused
      rfl

/-! ### The room for an argument -/

/-- The slot of an argument is of the size that its type says, and can be written to any buffer that is large
enough, whatever layout was made for the declared types. -/
structure Room (home : UInt64) (types : List ArgType) (index : Nat) (value : ArgValue) (type : ArgType)
    (slot : Slot) : Prop where
  sized : type.nativeSize? = some slot.cell.size
  native : Native home value type slot
  writable : ∀ (abi : Abi) (layout : Layout), Layout.ofSignature abi types = .ok layout →
    ∃ range, layout.ranges[index]? = some range ∧ slot.cell.size ≤ range.size ∧
      ∀ buffer : Bytes, layout.size ≤ buffer.length →
        ∃ after, layout.writeSlot buffer index slot.cell = .ok after ∧ after.length = buffer.length

theorem room_of_marshal {index : Nat} {slot : Slot} (declared : types[index]? = some type)
    (converted : marshal home value type = .ok slot) : Room home types index value type slot := by
  have sized := nativeSize_of_marshal converted
  refine ⟨sized, native_of_marshal converted, ?_⟩
  intro abi layout placed
  obtain ⟨_, rfl⟩ := Layout.ofSignature_eq_ok_iff.mp placed
  have found := Layout.getElem?_ranges abi declared
  have fits := ArgType.nativeSize_le_slotBytes sized
  refine ⟨_, found, fits, ?_⟩
  intro buffer large
  have inside := (Layout.sound_ofFitting abi types).within _ (List.mem_of_getElem? found)
  have ends := Nat.le_trans inside large
  refine ⟨_, Layout.writeSlot_of_fits found fits ends, ?_⟩
  apply Bytes.length_splice
  rw [SlotRange.length_content fits]
  exact ends

/-- Conversion of a list is conversion of each of its arguments, and stops at the first that is refused. What is
converted has the size and form of its declared type, and its range in every layout takes it. A value is only
converted to a type that may take its kind, and an array to an array type that is its own. -/
theorem arguments_agree (homes : Nat → UInt64) {values : List ArgValue} {types : List ArgType}
    (paired : values.length = types.length) :
    ((∃ slots, marshalAll homes values types = .ok slots) ↔
      ∀ index value type, Argument values types index value type → Marshals (homes index) value type) ∧
    (∀ index cause, marshalAll homes values types = .error (index, cause) ↔
      (∃ value type, Argument values types index value type ∧ marshal (homes index) value type = .error cause) ∧
      ∀ earlier < index, ∀ value type, Argument values types earlier value type →
        Marshals (homes earlier) value type) ∧
    (∀ slots, marshalAll homes values types = .ok slots →
      slots.length = types.length ∧
      ∀ index value type, Argument values types index value type →
        ∃ slot, slots[index]? = some slot ∧ marshal (homes index) value type = .ok slot ∧
          Room (homes index) types index value type slot) ∧
    (∀ home value type, Marshals home value type → value.kind.TakenBy type) ∧
    ∀ home value element rank, Marshals home value (.array element rank) ↔
      ∃ view, value = .array view ∧ view.element = element ∧ view.rank = rank := by
  refine ⟨marshalAll_accepts_iff, fun _ _ => marshalAll_eq_error_iff, ?_, fun _ _ _ => takenBy_of_marshals,
    fun _ _ _ _ => marshals_array_iff⟩
  intro slots all
  obtain ⟨length, each⟩ := marshalFrom_eq_ok all
  constructor
  · rw [length, List.length_zip, paired, Nat.min_self]
  · intro index value type found
    obtain ⟨slot, taken, converted⟩ := each index value type found.1 found.2
    rw [Nat.zero_add] at converted
    exact ⟨slot, taken, converted, room_of_marshal found.2 converted⟩

/-- A short integer and a bare real number for a complex type, which takes two slots: both have room. With a
flag and an integer that is too large behind the first, the flag is reported. -/
theorem arguments_agree_mixed :
    let short : ArgType := .scalar (.signed .bits16)
    let wide : ArgType := .scalar (.complex .double)
    let one : ArgValue := .float (0x3FF0000000000000 : BitVec 64)
    let pair : List ArgValue := [.int (-2), one]
    let faulty : List ArgValue := [.int (-2), .bool true, .int 0x8000]
    pair.length = [short, wide].length ∧
      (∃ slot, marshal 0 one wide = .ok slot ∧ Room 0 [short, wide] 1 one wide slot) ∧
      faulty.length = [short, short, short].length ∧
      marshalAll (fun _ => 0) faulty [short, short, short] = .error (1, .typeMismatch short .bool) := by
  intro short wide one pair faulty
  have paired : pair.length = [short, wide].length := rfl
  have tripled : faulty.length = [short, short, short].length := rfl
  obtain ⟨_, _, rooms, _⟩ := arguments_agree (fun _ => 0) paired
  obtain ⟨slot, _, converted, room⟩ := (rooms _ rfl).2 1 one wide ⟨rfl, rfl⟩
  refine ⟨paired, ⟨slot, converted, room⟩, tripled, ?_⟩
  apply ((arguments_agree (fun _ => 0) tripled).2.1 1 _).mpr
  refine ⟨⟨.bool true, short, ⟨rfl, rfl⟩, rfl⟩, ?_⟩
  intro earlier before value type found
  obtain rfl : earlier = 0 := by omega
  obtain rfl := Option.some.inj found.1
  obtain rfl := Option.some.inj found.2
  exact ⟨_, rfl⟩

end KernelLaunch
