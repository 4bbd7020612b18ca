/-! The fixed-width numbers a kernel can take by value. A type is given by its kind and its width,
so sizes and names are computed and never listed. -/

namespace KernelLaunch

inductive Width where
  | bits8
  | bits16
  | bits32
  | bits64
  deriving DecidableEq

def Width.bits : Width → Nat
  | .bits8 => 8
  | .bits16 => 16
  | .bits32 => 32
  | .bits64 => 64

/-- Half of the number of integers of a width: the signed ones lie as far below zero as this. -/
def Width.half (width : Width) : Nat := 1 <<< (width.bits - 1)

inductive Precision where
  | single
  | double
  deriving DecidableEq

namespace Precision

def width : Precision → Nat
  | .single => 32
  | .double => 64

/-- Bits of the significand, the leading one of a normal number included. -/
def digits : Precision → Nat
  | .single => 24
  | .double => 53

/-- The exponent of the last significand bit of the smallest numbers. -/
def leastExponent : Precision → Int
  | .single => -149
  | .double => -1074

end Precision

/-- A pattern of bits in a floating-point format. Floats are kept as patterns, so that a NaN and
a negative zero are what they are. -/
abbrev FloatBits (precision : Precision) := BitVec precision.width

inductive ScalarType where
  | signed (width : Width)
  | unsigned (width : Width)
  | real (precision : Precision)
  | complex (precision : Precision)
  deriving DecidableEq

namespace ScalarType

def bits : ScalarType → Nat
  | .signed width | .unsigned width => width.bits
  | .real precision => precision.width
  | .complex precision => 2 * precision.width

def size (type : ScalarType) : Nat := type.bits / 8

def name (type : ScalarType) : String :=
  match type with
  | .signed width => s!"int{width.bits}"
  | .unsigned width => s!"uint{width.bits}"
  | .real precision => s!"float{precision.width}"
  | .complex precision => s!"complex{2 * precision.width}"

/-- The short code of a type, one letter and the width. -/
def code (type : ScalarType) : String :=
  match type with
  | .signed width => s!"I{width.bits}"
  | .unsigned width => s!"U{width.bits}"
  | .real precision => s!"F{precision.width}"
  | .complex precision => s!"C{2 * precision.width}"

def isSigned : ScalarType → Bool
  | .signed _ => true
  | _ => false

def isUnsigned : ScalarType → Bool
  | .unsigned _ => true
  | _ => false

def isReal : ScalarType → Bool
  | .real _ => true
  | _ => false

def isComplex : ScalarType → Bool
  | .complex _ => true
  | _ => false

theorem size_mem (type : ScalarType) : type.size ∈ [1, 2, 4, 8, 16] := by
  rcases type with width | width | precision | precision
  · cases width <;> decide
  · cases width <;> decide
  · cases precision <;> decide
  · cases precision <;> decide

theorem size_pos (type : ScalarType) : 0 < type.size := by
  have member := type.size_mem
  simp only [List.mem_cons, List.not_mem_nil, or_false] at member
  omega

theorem size_le (type : ScalarType) : type.size ≤ 16 := by
  have member := type.size_mem
  simp only [List.mem_cons, List.not_mem_nil, or_false] at member
  omega

end ScalarType
end KernelLaunch
