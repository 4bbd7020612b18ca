import KernelLaunch.Descriptor

/-! Native cells: the bits of a scalar of a given type, or an address. A slot is the cell of one
argument, with the array descriptor that its address leads to. -/

namespace KernelLaunch

def ScalarType.Payload : ScalarType → Type
  | .signed width | .unsigned width => BitVec width.bits
  | .real precision => FloatBits precision
  | .complex precision => FloatBits precision × FloatBits precision

/-- A value in native byte order; a complex value has its real part first. -/
def ScalarType.encode : (type : ScalarType) → type.Payload → Bytes
  | .signed width, bits => Bytes.littleEndian (width.bits / 8) (BitVec.toNat bits)
  | .unsigned width, bits => Bytes.littleEndian (width.bits / 8) (BitVec.toNat bits)
  | .real precision, bits => Bytes.littleEndian (precision.width / 8) (BitVec.toNat bits)
  | .complex precision, (re, im) =>
    Bytes.littleEndian (precision.width / 8) (BitVec.toNat re)
      ++ Bytes.littleEndian (precision.width / 8) (BitVec.toNat im)

inductive Cell where
  | scalar (type : ScalarType) (payload : type.Payload)
  | address (target : UInt64)

namespace Cell

def bytes : Cell → Bytes
  | .scalar type payload => type.encode payload
  | .address target => Bytes.littleEndian slotSize target.toNat

def size (cell : Cell) : Nat := cell.bytes.length

def type? : Cell → Option ScalarType
  | .scalar type _ => some type
  | .address _ => none

end Cell

inductive Slot where
  | value (cell : Cell)
  /-- An array descriptor, kept at an address for as long as a kernel may read it. -/
  | array (descriptor : Descriptor) (home : UInt64)

namespace Slot

def cell : Slot → Cell
  | .value cell => cell
  | .array _ home => .address home

def descriptor? : Slot → Option Descriptor
  | .value _ => none
  | .array descriptor _ => some descriptor

end Slot

theorem ScalarType.length_encode (type : ScalarType) (payload : type.Payload) :
    (type.encode payload).length = type.size := by
  rcases type with width | width | precision | precision
  · exact Bytes.length_littleEndian ..
  · exact Bytes.length_littleEndian ..
  · exact Bytes.length_littleEndian ..
  · obtain ⟨re, im⟩ := payload
    simp only [encode, List.length_append, Bytes.length_littleEndian]
    cases precision <;> rfl

end KernelLaunch
