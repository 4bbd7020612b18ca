import KernelLaunch.Proofs.NativeEncoding
import KernelLaunch.Proofs.ReadOutcomes
import KernelLaunch.Proofs.WriteOrder

/-! Reading a filled argument buffer gives back what was written. A read moves up to a multiple of its own
width first, but every argument begins on a slot, and the widths of all reads divide that of a slot: the
reader stays where it was put. -/

namespace KernelLaunch

theorem Bytes.slice_parts {bytes front back : Bytes} {offset : Nat}
    (whole : bytes.slice offset (front ++ back).length = front ++ back) :
    bytes.slice offset front.length = front ∧ bytes.slice (offset + front.length) back.length = back := by
  rw [List.length_append] at whole
  constructor
  · have first := congrArg (List.take front.length) whole
    rw [slice, List.take_take, Nat.min_eq_left (Nat.le_add_right ..), List.take_left] at first
    exact first
  · have second := congrArg (List.drop front.length) whole
    rw [slice, List.drop_take, List.drop_drop, Nat.add_sub_cancel_left, List.drop_left] at second
    exact second

namespace Reader

/-- The buffer goes on with these bytes where the reader stands, and their end has an offset. -/
structure Faces (reader : Reader) (bytes : Bytes) : Prop where
  stands : reader.buffer.slice reader.offset bytes.length = bytes
  inside : reader.offset + bytes.length ≤ reader.buffer.length
  addressed : reader.offset + bytes.length < wordLimit

variable {reader : Reader}

theorem Faces.front {front back : Bytes} (faces : reader.Faces (front ++ back)) : reader.Faces front := by
  have inside := faces.inside
  have addressed := faces.addressed
  rw [List.length_append] at inside addressed
  refine ⟨(Bytes.slice_parts faces.stands).1, ?_, ?_⟩ <;> omega

theorem Faces.back {front back : Bytes} (faces : reader.Faces (front ++ back)) :
    (reader.seek (reader.offset + front.length)).Faces back := by
  have inside := faces.inside
  have addressed := faces.addressed
  rw [List.length_append, ← Nat.add_assoc] at inside addressed
  exact ⟨(Bytes.slice_parts faces.stands).2, inside, addressed⟩

theorem align_of_dvd {width : Nat} (aligned : width ∣ reader.offset) : reader.align width = .ok reader := by
  rw [align, if_pos (Nat.mod_eq_zero_of_dvd aligned)]

theorem readBytes_of_faces {bytes : Bytes} (faces : reader.Faces bytes) :
    reader.readBytes bytes.length = (.ok bytes, reader.seek (reader.offset + bytes.length)) := by
  rw [readBytes_of_inside faces.addressed faces.inside, faces.stands]

theorem readNumber_of_faces {width number : Nat} (faces : reader.Faces (Bytes.littleEndian width number))
    (aligned : width ∣ reader.offset) :
    reader.readNumber width = (.ok (number % 256 ^ width), reader.seek (reader.offset + width)) := by
  have read := readBytes_of_faces faces
  rw [Bytes.length_littleEndian] at read
  simp only [readNumber, align_of_dvd aligned, read, Except.map, Bytes.toNat_littleEndian]

theorem readBits_of_faces {bits : Nat} (whole : 8 ∣ bits) {payload : BitVec bits}
    (faces : reader.Faces (Bytes.littleEndian (bits / 8) payload.toNat)) (aligned : bits / 8 ∣ reader.offset) :
    reader.readBits bits = (.ok payload, reader.seek (reader.offset + bits / 8)) := by
  have limit : 256 ^ (bits / 8) = 2 ^ bits := by
    rw [show 256 = 2 ^ 8 from rfl, ← Nat.pow_mul, Nat.mul_div_cancel' whole]
  have small : payload.toNat % 256 ^ (bits / 8) = payload.toNat := by
    rw [limit]
    exact Nat.mod_eq_of_lt payload.isLt
  simp only [readBits, readNumber_of_faces faces aligned, small, Except.map, BitVec.ofNat_toNat,
    BitVec.setWidth_eq]

theorem readAddress_of_faces {target : UInt64}
    (faces : reader.Faces (Bytes.littleEndian slotSize target.toNat)) (aligned : slotSize ∣ reader.offset) :
    reader.readAddress = (.ok target, reader.seek (reader.offset + slotSize)) := by
  have small : target.toNat % 256 ^ slotSize = target.toNat := Nat.mod_eq_of_lt target.toNat_lt
  simp only [readAddress, readNumber_of_faces faces aligned, small, Except.map, UInt64.ofNat_toNat]

/-- A scalar is read as it was encoded: each of its parts begins at a multiple of its own width. -/
theorem readPayload_of_faces {type : ScalarType} {payload : type.Payload}
    (faces : reader.Faces (type.encode payload)) (aligned : slotSize ∣ reader.offset) :
    reader.readPayload type = (.ok payload, reader.seek (reader.offset + type.size)) := by
  cases type with
  | signed width | unsigned width =>
    apply readBits_of_faces _ faces
    · exact Nat.dvd_trans (by cases width <;> decide) aligned
    · cases width <;> decide
  | real precision =>
    apply readBits_of_faces _ faces
    · exact Nat.dvd_trans (by cases precision <;> decide) aligned
    · cases precision <;> decide
  | complex precision =>
    obtain ⟨re, im⟩ := payload
    have whole : 8 ∣ precision.width := by cases precision <;> decide
    have divides : precision.width / 8 ∣ slotSize := by cases precision <;> decide
    have front : precision.width / 8 ∣ reader.offset := Nat.dvd_trans divides aligned
    have later := faces.back
    rw [Bytes.length_littleEndian] at later
    have first := readBits_of_faces whole faces.front front
    have second := readBits_of_faces whole later (Nat.dvd_add front (Nat.dvd_refl _))
    have size : (ScalarType.complex precision).size = precision.width / 8 + precision.width / 8 := by
      cases precision <;> rfl
    simp only [readPayload, first, second, Except.map]
    rw [size, ← Nat.add_assoc]
    rfl

/-- The cell of an argument, read by the type that the argument was declared with. There is nothing to read
for a type without a native form. -/
def readCell? (reader : Reader) : ArgType → Option (Reading Cell)
  | .scalar type =>
    let (payload, after) := reader.readPayload type
    some (payload.map (.scalar type), after)
  | .array _ _ =>
    let (target, after) := reader.readAddress
    some (target.map .address, after)
  | .boolean | .named _ => none

theorem readCell?_of_marshal {home : UInt64} {value : ArgValue} {type : ArgType} {slot : Slot}
    (marshaled : marshal home value type = .ok slot) (faces : reader.Faces slot.cell.bytes)
    (aligned : slotSize ∣ reader.offset) :
    reader.readCell? type = some (.ok slot.cell, reader.seek (reader.offset + slot.cell.size)) := by
  have sized := nativeSize_of_marshal marshaled
  obtain ⟨scalar, payload, rfl, _, rfl⟩ | ⟨view, rfl, rfl, rfl⟩ := marshal_eq_ok marshaled
  · rw [readCell?, readPayload_of_faces faces aligned, Option.some.inj sized]
    rfl
  · rw [readCell?, readAddress_of_faces faces aligned, Option.some.inj sized]
    rfl

end Reader

namespace Layout

variable {abi : Abi} {types : List ArgType} {homes : Nat → UInt64} {values : List ArgValue} {slots : List Slot}

/-- The slot of an argument. Beyond the list no slot is ever written, so any will do there. -/
def slotAt (slots : List Slot) (index : Nat) : Slot := slots.getD index (.value (.address 0))

theorem slotAt_of_getElem? {index : Nat} {slot : Slot} (taken : slots[index]? = some slot) :
    slotAt slots index = slot := by
  rw [slotAt, List.getD_eq_getElem?_getD, taken, Option.getD_some]

theorem cellsFit_slotAt (marshaled : marshalAll homes values types = .ok slots) :
    (ofFitting abi types).CellsFit (slotAt slots) := by
  intro index range found
  obtain ⟨type, typeAt, rfl⟩ := exists_type_of_ranges found
  cases taken : slots[index]? with
  | some slot =>
    obtain ⟨value, other, _, otherAt, converted⟩ := marshal_of_getElem? marshaled taken
    rw [typeAt] at otherAt
    obtain rfl := Option.some.inj otherAt
    rw [slotAt_of_getElem? taken]
    exact ArgType.nativeSize_le_slotBytes (nativeSize_of_marshal converted)
  | none =>
    have beyond : slotAt slots index = .value (.address 0) := by
      rw [slotAt, List.getD_eq_getElem?_getD, taken, Option.getD_none]
    rw [beyond]
    exact Nat.le_mul_of_pos_right slotSize type.slotCount_pos

/-- However the writes of a list of slots are ordered, they end well and each slot stands in its range. -/
theorem slice_of_writes (marshaled : marshalAll homes values types = .ok slots) {buffer : Bytes}
    {writes : List Write} (large : (ofFitting abi types).size ≤ buffer.length)
    (once : writes.Perm (.reserved :: (List.range slots.length).map .argument)) :
    ∃ after, writes.foldlM ((ofFitting abi types).write (slotAt slots)) buffer = .ok after ∧
      after.length = buffer.length ∧
      ∀ (index : Nat) (range : SlotRange) (slot : Slot), (ofFitting abi types).ranges[index]? = some range →
        slots[index]? = some slot → after.slice range.offset range.size = range.content slot.cell := by
  have fits : (ofFitting abi types).CellsFit (slotAt slots) := cellsFit_slotAt marshaled
  have size := length_image fits
  have known : ∀ write ∈ writes, ((ofFitting abi types).part? write).isSome := by
    intro write member
    cases once.mem_iff.mp member with
    | head => rfl
    | tail _ later =>
      obtain ⟨index, inside, rfl⟩ := List.mem_map.mp later
      have taken := List.getElem?_eq_getElem (List.mem_range.mp inside)
      obtain ⟨value, type, _, typeAt, _⟩ := marshal_of_getElem? marshaled taken
      rw [part?, getElem?_ranges abi typeAt]
      rfl
  have whole : (image abi types (slotAt slots) ++ buffer.drop (ofFitting abi types).size).length =
      buffer.length := by
    rw [List.length_append, List.length_drop]
    omega
  obtain ⟨after, written, length, right⟩ := foldlM_write_eq_ok (aims_image fits _) known large whole
  refine ⟨after, written, length, ?_⟩
  intro index range slot found taken
  rw [← slotAt_of_getElem? taken, ← slice_image_argument fits _ found]
  apply List.ext_getElem?
  intro position
  rw [Bytes.getElem?_slice, Bytes.getElem?_slice]
  split
  · rename_i within
    apply right
    left
    obtain ⟨inside, _⟩ := List.getElem?_eq_some_iff.mp taken
    refine ⟨.argument index, once.mem_iff.mpr (List.mem_cons_of_mem _ ?_), range, found, ?_⟩
    · exact List.mem_map_of_mem (List.mem_range.mpr inside)
    · omega
  · rfl

/-- Reading undoes writing: after the reserved slots and all arguments of a signature have been written, in
any order, a reader put at the offset of an argument reads the cell of that argument by its declared type,
and stands behind the cell. -/
theorem read_of_writes {layout : Layout} {buffer : Bytes} {writes : List Write}
    (placed : ofSignature abi types = .ok layout) (marshaled : marshalAll homes values types = .ok slots)
    (large : layout.size ≤ buffer.length)
    (once : writes.Perm (.reserved :: (List.range slots.length).map .argument)) :
    ∃ after, writes.foldlM (layout.write (slotAt slots)) buffer = .ok after ∧
      ∀ (index : Nat) (slot : Slot), slots[index]? = some slot →
        ∃ type offset, types[index]? = some type ∧ layout.offset? index = some offset ∧
          (Reader.mk after offset).readCell? type =
            some (.ok slot.cell, ⟨after, offset + slot.cell.size⟩) := by
  obtain ⟨bounded, rfl⟩ := ofSignature_eq_ok_iff.mp placed
  obtain ⟨after, written, length, stands⟩ := slice_of_writes marshaled large once
  refine ⟨after, written, ?_⟩
  intro index slot taken
  obtain ⟨value, type, _, typeAt, converted⟩ := marshal_of_getElem? marshaled taken
  have found := getElem?_ranges abi typeAt
  have ends := (sound_ofFitting abi types).within _ (List.mem_of_getElem? found)
  have fitting := ArgType.nativeSize_le_slotBytes (nativeSize_of_marshal converted)
  refine ⟨type, _, typeAt, by rw [offset?, found, Option.map_some], ?_⟩
  -- The whole range is faced, and of it the cell is the front.
  have filled : (SlotRange.content ⟨abi.injected * slotSize + bytesOf (types.take index), type.slotBytes⟩
      slot.cell).length = type.slotBytes :=
    SlotRange.length_content fitting
  have faces : (Reader.mk after (abi.injected * slotSize + bytesOf (types.take index))).Faces
      (SlotRange.content ⟨abi.injected * slotSize + bytesOf (types.take index), type.slotBytes⟩ slot.cell) := by
    constructor
    case stands =>
      rw [filled]
      exact stands index _ slot found taken
    case inside =>
      rw [filled, length]
      exact Nat.le_trans ends large
    case addressed =>
      rw [filled]
      exact Nat.lt_of_le_of_lt ends bounded
  have aligned : slotSize ∣ abi.injected * slotSize + bytesOf (types.take index) :=
    Nat.dvd_add (Nat.dvd_mul_left ..) (Nat.dvd_mul_right ..)
  exact Reader.readCell?_of_marshal converted faces.front aligned

/-- A short argument and a wide one behind it, written from the last back into dirty memory: each is read
where its range begins, and the reader stops behind it. -/
theorem read_of_writes_narrow :
    let types : List ArgType := [.scalar (.signed .bits16), .scalar (.complex .double)]
    let values : List ArgValue := [.int (-2), .complex (1 : BitVec 64) (2 : BitVec 64)]
    let slots : List Slot := [.value (.scalar (.signed .bits16) (0xFFFE : BitVec 16)),
      .value (.scalar (.complex .double) ((1 : BitVec 64), (2 : BitVec 64)))]
    let layout : Layout := ⟨1, [⟨8, 8⟩, ⟨16, 16⟩], 32⟩
    let writes : List Write := [.argument 1, .reserved, .argument 0]
    ofSignature ⟨1⟩ types = .ok layout ∧ marshalAll (fun _ => 0) values types = .ok slots ∧
      writes.Perm (.reserved :: (List.range slots.length).map .argument) ∧
      ∃ after, writes.foldlM (layout.write (slotAt slots)) (List.replicate 33 0xAA) = .ok after ∧
        (Reader.mk after 8).readCell? (.scalar (.signed .bits16)) =
          some (.ok (.scalar (.signed .bits16) (0xFFFE : BitVec 16)), ⟨after, 10⟩) ∧
        (Reader.mk after 16).readCell? (.scalar (.complex .double)) =
          some (.ok (.scalar (.complex .double) ((1 : BitVec 64), (2 : BitVec 64))), ⟨after, 32⟩) := by
  intro types values slots layout writes
  have placed : ofSignature ⟨1⟩ types = .ok layout := rfl
  have marshaled : marshalAll (fun _ => 0) values types = .ok slots := rfl
  have large : layout.size ≤ (List.replicate 33 (0xAA : UInt8)).length := by decide
  have once : writes.Perm (.reserved :: (List.range slots.length).map .argument) := by decide
  refine ⟨placed, marshaled, once, ?_⟩
  obtain ⟨after, written, read⟩ := read_of_writes placed marshaled large once
  refine ⟨after, written, ?_, ?_⟩
  · obtain ⟨type, offset, typeAt, offsetAt, found⟩ := read 0 _ rfl
    obtain rfl := Option.some.inj typeAt
    obtain rfl := Option.some.inj offsetAt
    exact found
  · obtain ⟨type, offset, typeAt, offsetAt, found⟩ := read 1 _ rfl
    obtain rfl := Option.some.inj typeAt
    obtain rfl := Option.some.inj offsetAt
    exact found

end Layout
end KernelLaunch
