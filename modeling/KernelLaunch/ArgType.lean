import KernelLaunch.Scalar

/-! The declared type of a kernel argument, and how many slots of the argument buffer it takes.
A slot is one device word; only the widest scalar takes two. -/

namespace KernelLaunch

inductive ArgType where
  | scalar (type : ScalarType)
  /-- An array passed by the address of its descriptor. -/
  | array (element : ScalarType) (rank : Nat)
  /-- A flag; front ends produce it, but it has no native form. -/
  | boolean
  | named (name : String)
  deriving DecidableEq

/-- Bytes of one slot of the argument buffer: a device address. -/
def slotSize : Nat := 8

namespace ArgType

def text : ArgType → String
  | .scalar type => type.name
  | .array element rank => s!"array({element.name}, {rank}d)"
  | .boolean => "bool"
  | .named name => name

def nativeSize? : ArgType → Option Nat
  | .scalar type => some type.size
  | .array _ _ => some slotSize
  | .boolean | .named _ => none

/-- Whole slots that an argument takes. A type without a native form still holds one, since the
argument is refused only when its value is converted. -/
def slotCount (type : ArgType) : Nat :=
  match type.nativeSize? with
  | some size => max 1 ((size + slotSize - 1) / slotSize)
  | none => 1

def slotBytes (type : ArgType) : Nat := slotSize * type.slotCount

theorem slotCount_pos (type : ArgType) : 0 < type.slotCount := by
  unfold slotCount
  split <;> omega

theorem nativeSize_le_slotBytes {type : ArgType} {size : Nat} (native : type.nativeSize? = some size) :
    size ≤ type.slotBytes := by
  simp only [slotBytes, slotCount, native, slotSize]
  omega

end ArgType
end KernelLaunch
