import KernelLaunch.Binary.Conversion
import KernelLaunch.Cell

/-! The values a caller supplies at launch. Whatever the width of a host scalar, integers are kept
in 64 bits and floating-point numbers in double precision, both of which lose nothing. -/

namespace KernelLaunch

inductive ArgValue where
  | int (value : Int64)
  | uint (value : UInt64)
  | float (value : FloatBits .double)
  | complex (re im : FloatBits .double)
  | bool (value : Bool)
  | array (view : ArrayView)

def FloatBits.widen : (precision : Precision) → FloatBits precision → FloatBits .double
  | .single, bits => bits.convert .double
  | .double, bits => bits

namespace ArgValue

def kind : ArgValue → ValueKind
  | .int _ => .int
  | .uint _ => .uint
  | .float _ => .float
  | .complex _ _ => .complex
  | .bool _ => .bool
  | .array view => .array view.element view.rank

def ofScalar : (type : ScalarType) → type.Payload → ArgValue
  | .signed _, bits => .int (Int64.ofInt (BitVec.toInt bits))
  | .unsigned _, bits => .uint (UInt64.ofNat (BitVec.toNat bits))
  | .real precision, bits => .float (FloatBits.widen precision bits)
  | .complex precision, (re, im) =>
    .complex (FloatBits.widen precision re) (FloatBits.widen precision im)

/-- The integer that a value denotes, signed or not. -/
def integer? : ArgValue → Option Int
  | .int value => some value.toInt
  | .uint value => some value.toNat
  | _ => none

end ArgValue
end KernelLaunch
