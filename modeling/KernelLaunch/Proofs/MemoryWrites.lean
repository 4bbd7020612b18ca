import KernelLaunch.Kernarg.Memory
import KernelLaunch.Proofs.WriteOrder

/-! Writing to argument memory in place. The bounds are checked before the first byte is put, so a failure
leaves no trace. The check itself adds an offset to a size in words: that this cannot overflow is owed to the
layout, whose own sums fit a word even where it is larger than any memory. -/

namespace KernelLaunch

namespace Writing

variable {offset size : Nat} {content memory : Bytes}

theorem on_checkBounds (addressed : offset + size < wordLimit) (memory : Bytes) :
    (checkBounds offset size).on memory =
      if memory.length < offset + size then
        (.error (.refused (.bufferTooSmall offset size memory.length)), memory)
      else (.ok (), memory) := by
  simp only [checkBounds, addWords_of_lt addressed, on_bind, on_ofWords, on_get]
  split <;> rfl

theorem on_put (addressed : offset + content.length < wordLimit)
    (inside : offset + content.length ≤ memory.length) :
    (put offset content).on memory = (.ok (), memory.splice offset content) := by
  simp only [put, addWords_of_lt addressed, on_bind, on_ofWords, on_get, if_neg (Nat.not_lt.mpr inside)]
  rfl

/-- What a write comes to that is either done as a whole or refused, and then not begun. -/
def settled (written : Except MarshalError Bytes) (memory : Bytes) : Except WriteFault Unit × Bytes :=
  match written with
  | .ok after => (.ok (), after)
  | .error cause => (.error (.refused cause), memory)

/-- A write for some places of memory. It fails by a refusal only and leaves the memory as it was, or it
changes nothing but these places. -/
structure Confined (places : Nat → Prop) (memory : Bytes) (outcome : Except WriteFault Unit × Bytes) :
    Prop where
  refused : ∀ fault, outcome.1 = .error fault → ∃ cause, fault = .refused cause
  unchanged : ∀ fault, outcome.1 = .error fault → outcome.2 = memory
  length : outcome.2.length = memory.length
  frame : ∀ position, ¬ places position → outcome.2[position]? = memory[position]?

theorem confined_splice {places : Nat → Prop} (inside : offset + content.length ≤ memory.length)
    (covers : ∀ position, offset ≤ position → position < offset + content.length → places position) :
    Confined places memory (.ok (), memory.splice offset content) where
  refused _ failed := by cases failed
  unchanged _ failed := by cases failed
  length := Bytes.length_splice inside
  frame position elsewhere := by
    have outside : ¬ (offset ≤ position ∧ position < offset + content.length) :=
      fun within => elsewhere (covers position within.1 within.2)
    rw [Bytes.getElem?_splice inside, if_neg outside]

theorem confined_refused (places : Nat → Prop) (memory : Bytes) (cause : MarshalError) :
    Confined places memory (.error (.refused cause), memory) where
  refused _ failed := ⟨cause, (Except.error.inj failed).symm⟩
  unchanged _ _ := rfl
  length := rfl
  frame _ _ := rfl

end Writing

namespace Layout
open Writing

variable {abi : Abi} {types : List ArgType} {layout : Layout} {memory : Bytes} {index : Nat} {cell : Cell}
  {range : SlotRange}

theorem length_reserved (layout : Layout) :
    (List.replicate layout.injectedBytes (0 : UInt8)).length = layout.injectedBytes :=
  List.length_replicate

theorem writeInjected_of_short (short : memory.length < layout.injectedBytes) :
    layout.writeInjected memory = .error (.bufferTooSmall 0 layout.injectedBytes memory.length) :=
  if_neg (Nat.not_le.mpr short)

theorem writeSlot_of_unknown (unknown : layout.ranges[index]? = none) (memory : Bytes) (cell : Cell) :
    layout.writeSlot memory index cell = .error (.noSuchArgument index layout.argumentCount) := by
  rw [writeSlot, unknown]

/-- All that writing an argument of the layout can come to. -/
theorem writeSlot_cases (found : layout.ranges[index]? = some range) (memory : Bytes) (cell : Cell) :
    (range.size < cell.size ∧
      layout.writeSlot memory index cell = .error (.cellTooLarge cell.size range.size index)) ∨
    (cell.size ≤ range.size ∧ memory.length < range.offset + range.size ∧
      layout.writeSlot memory index cell = .error (.bufferTooSmall range.offset range.size memory.length)) ∨
    (cell.size ≤ range.size ∧ range.offset + range.size ≤ memory.length ∧
      layout.writeSlot memory index cell = .ok (memory.splice range.offset (range.content cell))) := by
  by_cases large : range.size < cell.size
  · left
    refine ⟨large, ?_⟩
    simp only [writeSlot, found, if_pos large]
  · have fits := Nat.le_of_not_lt large
    right
    by_cases short : memory.length < range.offset + range.size
    · left
      refine ⟨fits, short, ?_⟩
      simp only [writeSlot, found, if_neg large, if_pos short]
    · have inside := Nat.le_of_not_lt short
      right
      exact ⟨fits, inside, writeSlot_of_fits found fits inside⟩

/-- In place, the reserved slots are cleared as a whole or not at all. -/
theorem clearReserved_on (addressed : layout.injectedBytes < wordLimit) (memory : Bytes) :
    layout.clearReserved.on memory = settled (layout.writeInjected memory) memory := by
  have zeros := layout.length_reserved
  have product : mulWords layout.injected slotSize = .ok layout.injectedBytes := mulWords_of_lt addressed
  have ends : 0 + layout.injectedBytes < wordLimit := by omega
  have checked := on_checkBounds ends memory
  rw [Nat.zero_add] at checked
  simp only [clearReserved, product, on_bind, on_ofWords, checked]
  by_cases short : memory.length < layout.injectedBytes
  · rw [if_pos short, writeInjected_of_short short]
    rfl
  · rw [if_neg short, writeInjected_of_le (Nat.le_of_not_lt short)]
    exact on_put (by omega) (by omega)

/-- In place, a cell and the zeros behind it are put as a whole or not at all. -/
theorem store_on (addressed : ∀ range ∈ layout.ranges, range.offset + range.size < wordLimit)
    (memory : Bytes) (index : Nat) (cell : Cell) :
    (layout.store index cell).on memory = settled (layout.writeSlot memory index cell) memory := by
  cases found : layout.ranges[index]? with
  | none =>
    rw [writeSlot_of_unknown found, store, found]
    rfl
  | some range =>
    have ends := addressed range (List.mem_of_getElem? found)
    have checked := on_checkBounds ends memory
    obtain ⟨large, written⟩ | ⟨fits, short, written⟩ | ⟨fits, inside, written⟩ :=
      writeSlot_cases found memory cell
    · rw [written]
      simp only [store, found, if_pos large]
      rfl
    · rw [written]
      simp only [store, found, if_neg (Nat.not_lt.mpr fits), on_bind, checked, if_pos short]
      rfl
    · rw [written]
      have front : cell.bytes.length = cell.size := rfl
      have back : (List.replicate (range.size - cell.size) (0 : UInt8)).length = range.size - cell.size :=
        List.length_replicate
      have kept := Bytes.length_splice (show range.offset + cell.bytes.length ≤ memory.length by omega)
      have first : (put range.offset cell.bytes).on memory = _ := on_put (by omega) (by omega)
      have second : (put (range.offset + cell.size) (List.replicate (range.size - cell.size) 0)).on
          (memory.splice range.offset cell.bytes) = _ := on_put (by omega) (by omega)
      simp only [store, found, if_neg (Nat.not_lt.mpr fits), on_bind, checked, if_neg (Nat.not_lt.mpr inside),
        first, second]
      rw [SlotRange.content, ← Bytes.splice_splice (by omega)]
      rfl

theorem confined_clearReserved (memory : Bytes) :
    Confined (layout.Covers .reserved) memory (settled (layout.writeInjected memory) memory) := by
  cases written : layout.writeInjected memory with
  | error cause => exact confined_refused ..
  | ok after =>
    have zeros := layout.length_reserved
    obtain ⟨inside, rfl⟩ := writeInjected_eq_ok written
    apply confined_splice (by omega)
    intro position start before
    rw [zeros] at before
    exact ⟨⟨0, layout.injectedBytes⟩, rfl, start, before⟩

theorem confined_store (memory : Bytes) (index : Nat) (cell : Cell) :
    Confined (layout.Covers (.argument index)) memory (settled (layout.writeSlot memory index cell) memory) := by
  cases written : layout.writeSlot memory index cell with
  | error cause => exact confined_refused ..
  | ok after =>
    obtain ⟨range, found, fits, inside, rfl⟩ := writeSlot_eq_ok written
    have length := SlotRange.length_content fits
    apply confined_splice (by omega)
    intro position start before
    rw [length] at before
    exact ⟨range, found, start, before⟩

/-- An argument of the layout is refused for its cell before the memory is looked at. -/
theorem settled_known (found : layout.ranges[index]? = some range) (memory : Bytes) (cell : Cell) :
    let outcome := settled (layout.writeSlot memory index cell) memory
    (outcome.1 = .error (.refused (.cellTooLarge cell.size range.size index)) ↔ range.size < cell.size) ∧
    (outcome.1 = .error (.refused (.bufferTooSmall range.offset range.size memory.length)) ↔
      cell.size ≤ range.size ∧ memory.length < range.offset + range.size) ∧
    (outcome = (.ok (), memory.splice range.offset (range.content cell)) ↔
      cell.size ≤ range.size ∧ range.offset + range.size ≤ memory.length) := by
  obtain ⟨large, written⟩ | ⟨fits, short, written⟩ | ⟨fits, inside, written⟩ :=
    writeSlot_cases found memory cell
  · simp [written, settled, large, Nat.not_le.mpr large]
  · simp [written, settled, fits, short, Nat.not_lt.mpr fits]
  · simp [written, settled, fits, inside, Nat.not_lt.mpr fits]

theorem settled_unknown (memory : Bytes) (index : Nat) (cell : Cell) :
    (settled (layout.writeSlot memory index cell) memory).1 =
        .error (.refused (.noSuchArgument index layout.argumentCount)) ↔ layout.argumentCount ≤ index := by
  cases found : layout.ranges[index]? with
  | none =>
    have beyond : layout.argumentCount ≤ index := List.getElem?_eq_none_iff.mp found
    simp [writeSlot_of_unknown found, settled, beyond]
  | some range =>
    obtain ⟨inside, _⟩ := List.getElem?_eq_some_iff.mp found
    have present : ¬ layout.argumentCount ≤ index := Nat.not_le.mpr inside
    obtain ⟨_, written⟩ | ⟨_, _, written⟩ | ⟨_, _, written⟩ := writeSlot_cases found memory cell
    · simp [written, settled, present]
    · simp [written, settled, present]
    · simp [written, settled, present]

theorem settled_reserved (memory : Bytes) :
    let outcome := settled (layout.writeInjected memory) memory
    (outcome.1 = .error (.refused (.bufferTooSmall 0 layout.injectedBytes memory.length)) ↔
      memory.length < layout.injectedBytes) ∧
    (outcome = (.ok (), memory.splice 0 (List.replicate layout.injectedBytes 0)) ↔
      layout.injectedBytes ≤ memory.length) := by
  by_cases short : memory.length < layout.injectedBytes
  · simp [writeInjected_of_short short, settled, short]
  · have inside := Nat.le_of_not_lt short
    simp [writeInjected_of_le inside, settled, inside]

/-- Every end that a write computes is the end of a range, and no range of a layout ends beyond its total. -/
theorem addressed_of_ofSignature (placed : ofSignature abi types = .ok layout) :
    layout.injectedBytes < wordLimit ∧ ∀ range ∈ layout.ranges, range.offset + range.size < wordLimit := by
  have sound := sound_of_ofSignature placed
  obtain ⟨fits, rfl⟩ := ofSignature_eq_ok_iff.mp placed
  constructor
  · exact Nat.lt_of_le_of_lt sound.reserved fits
  · intro range member
    exact Nat.lt_of_le_of_lt (sound.within range member) fits

/-- On memory of any length, writing by a layout ends in success or in a refusal, and a refused write leaves
no trace. The reserved slots are refused just when they do not end in the memory. An argument is refused for
its number just when there is none of it, then for its cell just when its range is too small for that, and
then for the memory just when that range does not end in it. -/
theorem writes_confined (placed : ofSignature abi types = .ok layout) (memory : Bytes) :
    (Confined (layout.Covers .reserved) memory (layout.clearReserved.on memory) ∧
      ((layout.clearReserved.on memory).1 =
        .error (.refused (.bufferTooSmall 0 layout.injectedBytes memory.length)) ↔
          memory.length < layout.injectedBytes) ∧
      (layout.clearReserved.on memory = (.ok (), memory.splice 0 (List.replicate layout.injectedBytes 0)) ↔
        layout.injectedBytes ≤ memory.length)) ∧
    ∀ (index : Nat) (cell : Cell),
      let outcome := (layout.store index cell).on memory
      Confined (layout.Covers (.argument index)) memory outcome ∧
      (outcome.1 = .error (.refused (.noSuchArgument index types.length)) ↔ types.length ≤ index) ∧
      ∀ range, layout.ranges[index]? = some range →
        (outcome.1 = .error (.refused (.cellTooLarge cell.size range.size index)) ↔ range.size < cell.size) ∧
        (outcome.1 = .error (.refused (.bufferTooSmall range.offset range.size memory.length)) ↔
          cell.size ≤ range.size ∧ memory.length < range.offset + range.size) ∧
        (outcome = (.ok (), memory.splice range.offset (range.content cell)) ↔
          cell.size ≤ range.size ∧ range.offset + range.size ≤ memory.length) := by
  obtain ⟨reserved, ranges⟩ := addressed_of_ofSignature placed
  rw [clearReserved_on reserved, ← argumentCount_of_ofSignature placed]
  refine ⟨⟨confined_clearReserved memory, settled_reserved memory⟩, ?_⟩
  intro index cell
  rw [store_on ranges]
  exact ⟨confined_store memory index cell, settled_unknown memory index cell,
    fun range found => settled_known found memory cell⟩

/-- The largest layout that a word can number, on a single byte: every end it computes still fits a word, and
all writes are refused for the memory with the byte as it was. A third argument is refused for its number. -/
theorem writes_confined_vast :
    let types : List ArgType := [.scalar (.complex .double), .scalar (.signed .bits16)]
    let layout : Layout :=
      ⟨2305843009213693948, [⟨18446744073709551584, 16⟩, ⟨18446744073709551600, 8⟩], 18446744073709551608⟩
    let cell : Cell := .scalar (.signed .bits16) (0xFFFE : BitVec 16)
    ofSignature ⟨2305843009213693948⟩ types = .ok layout ∧
      layout.clearReserved.on [0xAA] =
        (.error (.refused (.bufferTooSmall 0 18446744073709551584 1)), [0xAA]) ∧
      (layout.store 1 cell).on [0xAA] =
        (.error (.refused (.bufferTooSmall 18446744073709551600 8 1)), [0xAA]) ∧
      (layout.store 2 cell).on [0xAA] = (.error (.refused (.noSuchArgument 2 2)), [0xAA]) := by
  intro types layout cell
  have placed : ofSignature ⟨2305843009213693948⟩ types = .ok layout := rfl
  have reservedBytes : layout.injectedBytes = 18446744073709551584 := by decide
  obtain ⟨⟨clear, refused, _⟩, argument⟩ := writes_confined placed [0xAA]
  rw [reservedBytes] at refused
  have reserved := refused.mpr (by decide)
  obtain ⟨second, _, known⟩ := argument 1 cell
  obtain ⟨third, unknown, _⟩ := argument 2 cell
  have short := (known _ rfl).2.1.mpr (by decide)
  have missing := unknown.mpr (by decide)
  exact ⟨placed, Prod.ext reserved (clear.unchanged _ reserved), Prod.ext short (second.unchanged _ short),
    Prod.ext missing (third.unchanged _ missing)⟩

end Layout
end KernelLaunch
