import KernelLaunch.Proofs.FilledBuffer

/-! The order in which an argument buffer is written. Every write puts into its range what the
finished buffer has there, and the ranges together cover all of the buffer's size. So the writes can
come in any order, and nothing of what the memory held before is left. -/

namespace KernelLaunch

namespace Bytes

variable {front rest : Bytes} {offset size : Nat}

theorem slice_append_left (inside : offset + size ≤ front.length) :
    (front ++ rest).slice offset size = front.slice offset size := by
  apply List.ext_getElem?
  intro index
  rw [getElem?_slice, getElem?_slice]
  split
  · rw [List.getElem?_append_left (by omega)]
  · rfl

theorem slice_append_right (front rest : Bytes) (offset size : Nat) :
    (front ++ rest).slice (front.length + offset) size = rest.slice offset size := by
  apply List.ext_getElem?
  intro index
  rw [getElem?_slice, getElem?_slice]
  split
  · rw [List.getElem?_append_right (by omega)]
    congr 1
    omega
  · rfl

end Bytes

namespace Layout

/-- A write to an argument buffer: to the reserved slots, or to the range of an argument. -/
inductive Write where
  | reserved
  | argument (index : Nat)
  deriving DecidableEq

def write (layout : Layout) (slots : Nat → Slot) (buffer : Bytes) : Write → Except MarshalError Bytes
  | .reserved => layout.writeInjected buffer
  | .argument index => layout.writeSlot buffer index (slots index).cell

def writes (layout : Layout) : List Write :=
  .reserved :: (List.range layout.argumentCount).map .argument

/-- The part of the buffer that a write is for. -/
def part? (layout : Layout) : Write → Option SlotRange
  | .reserved => some ⟨0, layout.injectedBytes⟩
  | .argument index => layout.ranges[index]?

theorem Sound.part_within {layout : Layout} (sound : layout.Sound) {write : Write} {part : SlotRange}
    (partAt : layout.part? write = some part) : part.offset + part.size ≤ layout.size := by
  cases write with
  | reserved =>
    obtain rfl := Option.some.inj partAt
    have inside : 0 + layout.injectedBytes ≤ layout.size := by
      rw [Nat.zero_add]
      exact sound.reserved
    exact inside
  | argument index => exact sound.within part (List.mem_of_getElem? partAt)

/-- What arguments leave in their ranges, one after another; `index` is that of the first. -/
def contents (slots : Nat → Slot) (index : Nat) : List ArgType → Bytes
  | [] => []
  | type :: types =>
    SlotRange.content ⟨0, type.slotBytes⟩ (slots index).cell ++ contents slots (index + 1) types

/-- The finished buffer, from what is written to it alone. -/
def image (abi : Abi) (types : List ArgType) (slots : Nat → Slot) : Bytes :=
  List.replicate (abi.injected * slotSize) 0 ++ contents slots 0 types

def CellsFit (layout : Layout) (slots : Nat → Slot) : Prop :=
  ∀ (index : Nat) (range : SlotRange), layout.ranges[index]? = some range →
    (slots index).cell.size ≤ range.size

/-- The cells of the slots from `index` on fit arguments of these types. -/
def FitFrom (slots : Nat → Slot) (index : Nat) (types : List ArgType) : Prop :=
  ∀ (place : Nat) (type : ArgType), types[place]? = some type →
    (slots (index + place)).cell.size ≤ type.slotBytes

section
variable {abi : Abi} {types : List ArgType} {slots : Nat → Slot} {index : Nat} {type : ArgType}

theorem FitFrom.head (fits : FitFrom slots index (type :: types)) :
    (slots index).cell.size ≤ type.slotBytes :=
  fits 0 type rfl

theorem FitFrom.tail (fits : FitFrom slots index (type :: types)) : FitFrom slots (index + 1) types := by
  intro place other found
  rw [Nat.succ_add_eq_add_succ]
  exact fits (place + 1) other found

theorem length_contents (fits : FitFrom slots index types) :
    (contents slots index types).length = bytesOf types := by
  induction types generalizing index with
  | nil => rfl
  | cons type types ih =>
    have first : (slots index).cell.size ≤ type.slotBytes := fits.head
    rw [contents, List.length_append, SlotRange.length_content first, bytesOf_cons, ih fits.tail]

theorem slice_contents (fits : FitFrom slots index types) {place : Nat}
    (found : types[place]? = some type) :
    (contents slots index types).slice (bytesOf (types.take place)) type.slotBytes =
      SlotRange.content ⟨0, type.slotBytes⟩ (slots (index + place)).cell := by
  induction types generalizing index place with
  | nil => cases found
  | cons head types ih =>
    have length : (SlotRange.content ⟨0, head.slotBytes⟩ (slots index).cell).length = head.slotBytes :=
      SlotRange.length_content fits.head
    cases place with
    | zero =>
      obtain rfl := Option.some.inj found
      rw [contents, List.take_zero, bytesOf_nil, Bytes.slice_append_left (by omega)]
      exact List.take_of_length_le (Nat.le_of_eq length)
    | succ place =>
      have apart := Bytes.slice_append_right (SlotRange.content ⟨0, head.slotBytes⟩ (slots index).cell)
        (contents slots (index + 1) types) (bytesOf (types.take place)) type.slotBytes
      rw [length] at apart
      rw [contents, List.take_succ_cons, bytesOf_cons, apart, Nat.add_comm place, ← Nat.add_assoc]
      exact ih fits.tail found

/-- The ranges leave no gap. -/
theorem exists_range_of_lt {offset position : Nat} {types : List ArgType} (start : offset ≤ position)
    (before : position < offset + bytesOf types) :
    ∃ (index : Nat) (range : SlotRange), (rangesFrom offset types)[index]? = some range ∧
      range.offset ≤ position ∧ position < range.offset + range.size := by
  induction types generalizing offset with
  | nil =>
    rw [bytesOf_nil] at before
    omega
  | cons type types ih =>
    rw [bytesOf_cons] at before
    by_cases here : position < offset + type.slotBytes
    · exact ⟨0, _, rfl, start, here⟩
    · obtain ⟨index, range, found, covers⟩ := ih (Nat.le_of_not_lt here) (by omega)
      exact ⟨index + 1, range, found, covers⟩

end

section
variable {layout : Layout} {slots : Nat → Slot} {target : Bytes}

/-- Every write puts into its part of a large enough buffer what the target has there. -/
def Aims (layout : Layout) (slots : Nat → Slot) (target : Bytes) : Prop :=
  ∀ (write : Write) (part : SlotRange), layout.part? write = some part →
    part.offset + part.size ≤ layout.size ∧
    ∀ buffer : Bytes, layout.size ≤ buffer.length →
      layout.write slots buffer write =
        .ok (buffer.splice part.offset (target.slice part.offset part.size))

def Covers (layout : Layout) (write : Write) (position : Nat) : Prop :=
  ∃ part, layout.part? write = some part ∧ part.offset ≤ position ∧ position < part.offset + part.size

/-- Writes end well, and wherever one of them has written, or the buffer was right before, the buffer
is as the target. -/
theorem foldlM_write_eq_ok (aims : layout.Aims slots target) {writes : List Write} {buffer : Bytes}
    (known : ∀ write ∈ writes, (layout.part? write).isSome) (large : layout.size ≤ buffer.length)
    (whole : target.length = buffer.length) :
    ∃ after, writes.foldlM (layout.write slots) buffer = .ok after ∧ after.length = buffer.length ∧
      ∀ position, ((∃ write ∈ writes, layout.Covers write position) ∨
        buffer[position]? = target[position]?) → after[position]? = target[position]? := by
  induction writes generalizing buffer with
  | nil =>
    refine ⟨buffer, rfl, rfl, ?_⟩
    rintro position (⟨write, member, _⟩ | right)
    · cases member
    · exact right
  | cons write writes ih =>
    obtain ⟨part, partAt⟩ := Option.isSome_iff_exists.mp (known write List.mem_cons_self)
    obtain ⟨inside, written⟩ := aims write part partAt
    have length : (target.slice part.offset part.size).length = part.size :=
      Bytes.length_slice (by omega)
    have within : part.offset + (target.slice part.offset part.size).length ≤ buffer.length := by omega
    have kept := Bytes.length_splice within
    obtain ⟨after, rest, same, right⟩ :=
      ih (fun other member => known other (List.mem_cons_of_mem write member))
        (Nat.le_trans large (Nat.le_of_eq kept.symm)) (whole.trans kept.symm)
    refine ⟨after, ?_, same.trans kept, ?_⟩
    · rw [List.foldlM_cons, written buffer large]
      exact rest
    · intro position covered
      apply right
      by_cases here : part.offset ≤ position ∧ position < part.offset + part.size
      · refine .inr ?_
        rw [Bytes.getElem?_splice within, length, if_pos here, Bytes.getElem?_slice, if_pos (by omega),
          Nat.add_sub_cancel' here.1]
      · rcases covered with ⟨other, member, covers⟩ | before
        · rcases List.mem_cons.mp member with rfl | later
          · obtain ⟨otherPart, otherAt, bounds⟩ := covers
            rw [partAt] at otherAt
            obtain rfl := Option.some.inj otherAt
            exact absurd bounds here
          · exact .inl ⟨other, later, covers⟩
        · refine .inr ?_
          rw [Bytes.getElem?_splice within, length, if_neg here, before]

end

section
variable {abi : Abi} {types : List ArgType} {slots : Nat → Slot}

theorem CellsFit.fitFrom (fits : (ofFitting abi types).CellsFit slots) : FitFrom slots 0 types := by
  intro place type found
  rw [Nat.zero_add]
  exact fits place _ (getElem?_ranges abi found)

theorem length_image (fits : (ofFitting abi types).CellsFit slots) :
    (image abi types slots).length = (ofFitting abi types).size := by
  rw [image, List.length_append, List.length_replicate, length_contents fits.fitFrom]
  rfl

theorem slice_image_reserved (behind : Bytes) :
    (image abi types slots ++ behind).slice 0 (ofFitting abi types).injectedBytes =
      List.replicate (ofFitting abi types).injectedBytes 0 := by
  have reserved : (List.replicate (abi.injected * slotSize) (0 : UInt8)).length = abi.injected * slotSize :=
    List.length_replicate
  have inside : 0 + abi.injected * slotSize ≤ (List.replicate (abi.injected * slotSize) (0 : UInt8)).length :=
    Nat.le_of_eq (by rw [reserved, Nat.zero_add])
  change Bytes.slice _ 0 (abi.injected * slotSize) = _
  rw [image, List.append_assoc, Bytes.slice_append_left inside]
  exact List.take_of_length_le (Nat.le_of_eq reserved)

theorem slice_image_argument (fits : (ofFitting abi types).CellsFit slots) (behind : Bytes) {index : Nat}
    {range : SlotRange} (found : (ofFitting abi types).ranges[index]? = some range) :
    (image abi types slots ++ behind).slice range.offset range.size = range.content (slots index).cell := by
  have size := length_image fits
  have inside := (sound_ofFitting abi types).within range (List.mem_of_getElem? found)
  rw [Bytes.slice_append_left (by omega), image]
  obtain ⟨type, typeAt, rfl⟩ := exists_type_of_ranges found
  have placed := Bytes.slice_append_right (List.replicate (abi.injected * slotSize) (0 : UInt8))
    (contents slots 0 types) (bytesOf (types.take index)) type.slotBytes
  rw [List.length_replicate, slice_contents fits.fitFrom typeAt, Nat.zero_add] at placed
  exact placed

/-- The finished buffer, with whatever the memory holds behind it, is what all writes aim at. -/
theorem aims_image (fits : (ofFitting abi types).CellsFit slots) (behind : Bytes) :
    (ofFitting abi types).Aims slots (image abi types slots ++ behind) := by
  intro write part partAt
  have inside := (sound_ofFitting abi types).part_within partAt
  refine ⟨inside, fun buffer large => ?_⟩
  have within := Nat.le_trans inside large
  cases write with
  | reserved =>
    obtain rfl := Option.some.inj partAt
    rw [slice_image_reserved]
    rw [Nat.zero_add] at within
    exact writeInjected_of_le within
  | argument index =>
    have found : (ofFitting abi types).ranges[index]? = some part := partAt
    rw [slice_image_argument fits behind found]
    exact writeSlot_of_fits found (fits index part found) within

theorem covers_of_lt {position : Nat} (inside : position < (ofFitting abi types).size) :
    ∃ write ∈ (ofFitting abi types).writes, (ofFitting abi types).Covers write position := by
  by_cases reserved : position < abi.injected * slotSize
  · refine ⟨.reserved, List.mem_cons_self, ⟨0, _⟩, rfl, Nat.zero_le _, ?_⟩
    rw [Nat.zero_add]
    exact reserved
  · obtain ⟨index, range, found, covers⟩ := exists_range_of_lt (Nat.le_of_not_lt reserved) inside
    obtain ⟨present, _⟩ := List.getElem?_eq_some_iff.mp found
    refine ⟨.argument index, List.mem_cons_of_mem _ ?_, range, found, covers⟩
    exact List.mem_map_of_mem (List.mem_range.mpr present)

theorem isSome_part? {layout : Layout} {write : Write} (member : write ∈ layout.writes) :
    (layout.part? write).isSome := by
  rcases List.mem_cons.mp member with rfl | later
  · rfl
  · obtain ⟨index, inside, rfl⟩ := List.mem_map.mp later
    have bound : index < layout.ranges.length := List.mem_range.mp inside
    rw [part?, List.getElem?_eq_getElem bound]
    rfl

/-- Clearing the reserved slots once and writing each argument once, in any order, ends well and
leaves one and the same buffer: the image of the arguments, and what stood behind it. -/
theorem writes_any_order {layout : Layout} {buffer : Bytes} {writes : List Write}
    (placed : ofSignature abi types = .ok layout) (fits : layout.CellsFit slots)
    (large : layout.size ≤ buffer.length) (once : writes.Perm layout.writes) :
    writes.foldlM (layout.write slots) buffer =
        .ok (image abi types slots ++ buffer.drop layout.size) ∧
      (image abi types slots).length = layout.size := by
  obtain ⟨_, rfl⟩ := ofSignature_eq_ok_iff.mp placed
  have size := length_image fits
  refine ⟨?_, size⟩
  have whole : (image abi types slots ++ buffer.drop (ofFitting abi types).size).length = buffer.length := by
    rw [List.length_append, List.length_drop]
    omega
  obtain ⟨after, written, length, right⟩ :=
    foldlM_write_eq_ok (aims_image fits _) (fun write member => isSome_part? (once.mem_iff.mp member))
      large whole
  rw [written]
  congr 1
  apply List.ext_getElem?
  intro position
  apply right
  by_cases inside : position < (ofFitting abi types).size
  · obtain ⟨write, member, covers⟩ := covers_of_lt inside
    exact .inl ⟨write, once.mem_iff.mpr member, covers⟩
  · refine .inr ?_
    rw [List.getElem?_append_right (by omega), List.getElem?_drop]
    congr 1
    omega

def shuffledSlots : Nat → Slot
  | 0 => .value (.scalar (.signed .bits16) (0xFFFE : BitVec 16))
  | 1 => .value (.scalar (.complex .double) ((1 : BitVec 64), (2 : BitVec 64)))
  | _ => .value (.address 3)

/-- Dirty memory, longer than the buffer, written from the last argument back: the short cell is
filled up with zeros, and the byte behind the buffer stays. -/
theorem writes_any_order_shuffled :
    let types : List ArgType := [.scalar (.signed .bits16), .scalar (.complex .double)]
    let layout : Layout := ⟨1, [⟨8, 8⟩, ⟨16, 16⟩], 32⟩
    ofSignature ⟨1⟩ types = .ok layout ∧ layout.CellsFit shuffledSlots ∧
      [Write.argument 1, .reserved, .argument 0].Perm layout.writes ∧
      [Write.argument 1, .reserved, .argument 0].foldlM (layout.write shuffledSlots)
          (List.replicate 33 0xAA) =
        .ok ([0, 0, 0, 0, 0, 0, 0, 0, 0xFE, 0xFF, 0, 0, 0, 0, 0, 0]
          ++ [1, 0, 0, 0, 0, 0, 0, 0, 2, 0, 0, 0, 0, 0, 0, 0] ++ [0xAA]) := by
  intro types layout
  have placed : ofSignature ⟨1⟩ types = .ok layout := rfl
  have fits : layout.CellsFit shuffledSlots := by
    intro index range found
    match index with
    | 0 | 1 =>
      obtain rfl := Option.some.inj found
      decide
    | index + 2 => cases found
  have once : [Write.argument 1, .reserved, .argument 0].Perm layout.writes := by decide
  exact ⟨placed, fits, once, (writes_any_order placed fits (by decide) once).1⟩

end
end Layout
end KernelLaunch
