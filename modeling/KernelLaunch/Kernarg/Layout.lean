import KernelLaunch.Cell
import KernelLaunch.Overflow

/-! The argument buffer: slots reserved for the device runtime, then the arguments in declared
order, without gaps. Writing touches only the range it is for and fills that range completely, so
nothing of what the memory held before reaches a kernel. -/

namespace KernelLaunch

/-- What a device fixes about its argument buffers. -/
structure Abi where
  /-- Slots that the device runtime reserves before the arguments. -/
  injected : Nat := 6
  deriving DecidableEq

structure Block where
  size : Nat
  align : Nat
  deriving DecidableEq

def kernargAlignment : Nat := 16

structure SlotRange where
  offset : Nat
  size : Nat
  deriving DecidableEq

structure Layout where
  injected : Nat
  ranges : List SlotRange
  size : Nat
  deriving DecidableEq

namespace Layout

/-- The ranges of arguments placed one after another from an offset on, and where they end. -/
def place (offset : Nat) : List ArgType → Except Overflow (List SlotRange × Nat)
  | [] => .ok ([], offset)
  | type :: types =>
    match addWords offset type.slotBytes with
    | .error overflow => .error overflow
    | .ok next =>
      match place next types with
      | .error overflow => .error overflow
      | .ok (ranges, size) => .ok (⟨offset, type.slotBytes⟩ :: ranges, size)

def ofSignature (abi : Abi) (types : List ArgType) : Except Overflow Layout :=
  match mulWords abi.injected slotSize with
  | .error overflow => .error overflow
  | .ok start =>
    match place start types with
    | .error overflow => .error overflow
    | .ok (ranges, size) => .ok ⟨abi.injected, ranges, size⟩

def injectedBytes (layout : Layout) : Nat := layout.injected * slotSize

def argumentCount (layout : Layout) : Nat := layout.ranges.length

def offset? (layout : Layout) (index : Nat) : Option Nat :=
  layout.ranges[index]?.map SlotRange.offset

/-- The memory the buffer needs: one slot at least, so that it is never empty. The size rounded up
to the alignment must still be that of an object. -/
def block (layout : Layout) : Except MarshalError Block :=
  let size := max layout.size slotSize
  if size ≤ objectLimit - (kernargAlignment - 1) then .ok ⟨size, kernargAlignment⟩
  else .error .unallocatable

def writeInjected (layout : Layout) (buffer : Bytes) : Except MarshalError Bytes :=
  let size := layout.injectedBytes
  if size ≤ buffer.length then .ok (List.replicate size 0 ++ buffer.drop size)
  else .error (.bufferTooSmall 0 size buffer.length)

/-- Writes the cell of an argument into its range and clears the rest of the range. -/
def writeSlot (layout : Layout) (buffer : Bytes) (index : Nat) (cell : Cell) :
    Except MarshalError Bytes :=
  match layout.ranges[index]? with
  | none => .error (.noSuchArgument index layout.argumentCount)
  | some range =>
    if range.size < cell.size then .error (.cellTooLarge cell.size range.size index)
    else if buffer.length < range.offset + range.size then
      .error (.bufferTooSmall range.offset range.size buffer.length)
    else
      .ok (buffer.take range.offset ++ cell.bytes ++ List.replicate (range.size - cell.size) 0
        ++ buffer.drop (range.offset + range.size))

end Layout
end KernelLaunch
