import KernelLaunch.Launch.Binder
import KernelLaunch.Proofs.LayoutRanges

/-! What filling an argument buffer leaves in it. Each write covers one range completely and
touches nothing else, and the ranges do not overlap, so later writes keep what earlier ones put
there. -/

namespace KernelLaunch

/-- What a cell leaves in a range: its bytes, and zeros to the end of the range. -/
def SlotRange.content (range : SlotRange) (cell : Cell) : Bytes :=
  cell.bytes ++ List.replicate (range.size - cell.size) 0

theorem SlotRange.length_content {range : SlotRange} {cell : Cell} (fits : cell.size ≤ range.size) :
    (range.content cell).length = range.size := by
  simp only [content, List.length_append, List.length_replicate]
  simp only [Cell.size] at fits ⊢
  omega

namespace Layout

/-- A buffer in which the reserved slots are clear and every argument stands in its range. -/
structure Holds (layout : Layout) (slots : List Slot) (bytes : Bytes) : Prop where
  reserved : bytes.slice 0 layout.injectedBytes = List.replicate layout.injectedBytes 0
  arguments : ∀ (index : Nat) (range : SlotRange) (slot : Slot),
    layout.ranges[index]? = some range → slots[index]? = some slot →
    bytes.slice range.offset range.size = range.content slot.cell

def Fits (layout : Layout) (slots : List Slot) : Prop :=
  ∀ (index : Nat) (slot : Slot), slots[index]? = some slot →
    ∃ range, layout.ranges[index]? = some range ∧ slot.cell.size ≤ range.size

theorem writeInjected_of_le {layout : Layout} {buffer : Bytes}
    (inside : layout.injectedBytes ≤ buffer.length) :
    layout.writeInjected buffer =
      .ok (buffer.splice 0 (List.replicate layout.injectedBytes 0)) := by
  simp only [writeInjected, if_pos inside, Bytes.splice, List.take_zero, List.nil_append,
    List.length_replicate, Nat.zero_add]

theorem writeInjected_eq_ok {layout : Layout} {buffer cleared : Bytes}
    (written : layout.writeInjected buffer = .ok cleared) :
    layout.injectedBytes ≤ buffer.length ∧
      cleared = buffer.splice 0 (List.replicate layout.injectedBytes 0) := by
  by_cases inside : layout.injectedBytes ≤ buffer.length
  · rw [writeInjected_of_le inside] at written
    exact ⟨inside, (Except.ok.inj written).symm⟩
  · simp only [writeInjected, if_neg inside, reduceCtorEq] at written

theorem writeSlot_of_fits {layout : Layout} {buffer : Bytes} {index : Nat} {cell : Cell}
    {range : SlotRange} (found : layout.ranges[index]? = some range) (fits : cell.size ≤ range.size)
    (inside : range.offset + range.size ≤ buffer.length) :
    layout.writeSlot buffer index cell = .ok (buffer.splice range.offset (range.content cell)) := by
  simp only [writeSlot, found, if_neg (Nat.not_lt.mpr fits), if_neg (Nat.not_lt.mpr inside),
    Bytes.splice, SlotRange.length_content fits]
  simp only [SlotRange.content, List.append_assoc]

theorem writeSlot_eq_ok {layout : Layout} {buffer after : Bytes} {index : Nat} {cell : Cell}
    (written : layout.writeSlot buffer index cell = .ok after) :
    ∃ range, layout.ranges[index]? = some range ∧ cell.size ≤ range.size ∧
      range.offset + range.size ≤ buffer.length ∧
      after = buffer.splice range.offset (range.content cell) := by
  cases found : layout.ranges[index]? with
  | none => simp only [writeSlot, found, reduceCtorEq] at written
  | some range =>
    by_cases fits : cell.size ≤ range.size
    · by_cases inside : range.offset + range.size ≤ buffer.length
      · rw [writeSlot_of_fits found fits inside] at written
        exact ⟨range, rfl, fits, inside, (Except.ok.inj written).symm⟩
      · simp only [writeSlot, found, if_neg (Nat.not_lt.mpr fits), if_pos (Nat.lt_of_not_le inside),
          reduceCtorEq] at written
    · simp only [writeSlot, found, if_pos (Nat.lt_of_not_le fits), reduceCtorEq] at written

end Layout

namespace Launch
open Layout

variable {layout : Layout}

/-- Writing the slots from `index` on changes no part that lies outside their ranges. -/
theorem writeSlots_frame {index : Nat} {bytes after : Bytes} {slots : List Slot}
    (written : writeSlots layout index bytes slots = (after, .ok ())) {start size : Nat}
    (outside : ∀ (place : Nat) (range : SlotRange), index ≤ place → layout.ranges[place]? = some range →
      start + size ≤ range.offset ∨ range.offset + range.size ≤ start) :
    after.slice start size = bytes.slice start size := by
  induction slots generalizing index bytes with
  | nil =>
    simp only [writeSlots, Prod.mk.injEq, and_true] at written
    rw [written]
  | cons slot slots ih =>
    simp only [writeSlots] at written
    cases first : layout.writeSlot bytes index slot.cell with
    | error cause => simp only [first, Prod.mk.injEq, reduceCtorEq, and_false] at written
    | ok next =>
      simp only [first] at written
      obtain ⟨range, found, fits, inside, rfl⟩ := writeSlot_eq_ok first
      rw [ih written fun place range later => outside place range (Nat.le_of_succ_le later)]
      have length := SlotRange.length_content fits
      apply Bytes.slice_splice_apart
      · rw [length]
        exact inside
      · rw [length]
        exact outside index range (Nat.le_refl index) found

theorem writeSlots_length {index : Nat} {bytes after : Bytes} {slots : List Slot}
    (written : writeSlots layout index bytes slots = (after, .ok ())) :
    after.length = bytes.length := by
  induction slots generalizing index bytes with
  | nil =>
    simp only [writeSlots, Prod.mk.injEq, and_true] at written
    rw [written]
  | cons slot slots ih =>
    simp only [writeSlots] at written
    cases first : layout.writeSlot bytes index slot.cell with
    | error cause => simp only [first, Prod.mk.injEq, reduceCtorEq, and_false] at written
    | ok next =>
      simp only [first] at written
      obtain ⟨range, found, fits, inside, rfl⟩ := writeSlot_eq_ok first
      rw [ih written, Bytes.length_splice]
      rw [SlotRange.length_content fits]
      exact inside

/-- Each slot written from `index` on ends up in its range: the ranges behind it leave it alone. -/
theorem writeSlots_content (sound : layout.Sound) {index : Nat} {bytes after : Bytes}
    {slots : List Slot} (written : writeSlots layout index bytes slots = (after, .ok ()))
    {place : Nat} {slot : Slot} (taken : slots[place]? = some slot) :
    ∃ range, layout.ranges[index + place]? = some range ∧
      after.slice range.offset range.size = range.content slot.cell := by
  induction slots generalizing index bytes place with
  | nil => simp at taken
  | cons head slots ih =>
    simp only [writeSlots] at written
    cases first : layout.writeSlot bytes index head.cell with
    | error cause => simp only [first, Prod.mk.injEq, reduceCtorEq, and_false] at written
    | ok next =>
      simp only [first] at written
      obtain ⟨range, found, fits, inside, rfl⟩ := writeSlot_eq_ok first
      cases place with
      | zero =>
        obtain rfl := Option.some.inj taken
        have length := SlotRange.length_content fits
        refine ⟨range, found, ?_⟩
        -- the ranges still to be written lie behind this one, so the frame keeps it
        rw [writeSlots_frame written]
        · conv => lhs; arg 3; rw [← length]
          exact Bytes.slice_splice_self (length.symm ▸ inside)
        · intro later other beyond otherAt
          exact .inl (sound.ordered beyond found otherAt)
      | succ place =>
        rw [← Nat.succ_add_eq_add_succ]
        exact ih written taken

theorem writeSlots_of_fits (sound : layout.Sound) {index : Nat} {bytes : Bytes} {slots : List Slot}
    (fits : ∀ (place : Nat) (slot : Slot), slots[place]? = some slot →
      ∃ range, layout.ranges[index + place]? = some range ∧ slot.cell.size ≤ range.size)
    (large : layout.size ≤ bytes.length) :
    ∃ after, writeSlots layout index bytes slots = (after, .ok ()) := by
  induction slots generalizing index bytes with
  | nil => exact ⟨bytes, rfl⟩
  | cons slot slots ih =>
    obtain ⟨range, found, fitting⟩ := fits 0 slot rfl
    rw [Nat.add_zero] at found
    have ends := sound.within range (List.mem_of_getElem? found)
    have inside : range.offset + range.size ≤ bytes.length := Nat.le_trans ends large
    have length := SlotRange.length_content fitting
    simp only [writeSlots, writeSlot_of_fits found fitting inside]
    apply ih
    · intro place other taken
      rw [Nat.succ_add_eq_add_succ]
      exact fits (place + 1) other taken
    · rw [Bytes.length_splice (length.symm ▸ inside)]
      exact large

theorem fill_length {bytes after : Bytes} {slots : List Slot}
    (filled : fill layout bytes slots = (after, .ok ())) : after.length = bytes.length := by
  simp only [fill] at filled
  cases cleared : layout.writeInjected bytes with
  | error cause => simp only [cleared, Prod.mk.injEq, reduceCtorEq, and_false] at filled
  | ok clear =>
    simp only [cleared] at filled
    obtain ⟨inside, rfl⟩ := writeInjected_eq_ok cleared
    rw [writeSlots_length filled, Bytes.length_splice]
    simpa only [List.length_replicate, Nat.zero_add] using inside

/-- A buffer that was filled without failure holds every argument, whatever it held before. -/
theorem holds_of_fill (sound : layout.Sound) {bytes after : Bytes} {slots : List Slot}
    (filled : fill layout bytes slots = (after, .ok ())) : layout.Holds slots after := by
  simp only [fill] at filled
  cases cleared : layout.writeInjected bytes with
  | error cause => simp only [cleared, Prod.mk.injEq, reduceCtorEq, and_false] at filled
  | ok clear =>
    simp only [cleared] at filled
    obtain ⟨inside, rfl⟩ := writeInjected_eq_ok cleared
    constructor
    · rw [writeSlots_frame filled]
      · have length : (List.replicate layout.injectedBytes (0 : UInt8)).length = layout.injectedBytes :=
          List.length_replicate
        conv => lhs; arg 3; rw [← length]
        exact Bytes.slice_splice_self (by rw [length, Nat.zero_add]; exact inside)
      · intro place range _ found
        rw [Nat.zero_add]
        exact .inl (sound.behind range (List.mem_of_getElem? found))
    · intro index range slot found taken
      obtain ⟨other, otherAt, content⟩ := writeSlots_content sound filled taken
      rw [Nat.zero_add, found] at otherAt
      obtain rfl := Option.some.inj otherAt
      exact content

theorem fill_of_fits (sound : layout.Sound) {bytes : Bytes} {slots : List Slot}
    (fits : layout.Fits slots) (large : layout.size ≤ bytes.length) :
    ∃ after, fill layout bytes slots = (after, .ok ()) := by
  have inside : layout.injectedBytes ≤ bytes.length := Nat.le_trans sound.reserved large
  simp only [fill, writeInjected_of_le inside]
  apply writeSlots_of_fits sound
  · intro place slot taken
    rw [Nat.zero_add]
    exact fits place slot taken
  · rw [Bytes.length_splice]
    · exact large
    · simpa only [List.length_replicate, Nat.zero_add] using inside

end Launch
end KernelLaunch
