import KernelLaunch.ArgType
import KernelLaunch.Decimal.Shortest

/-! Why a value cannot become a kernel argument, and why an argument buffer cannot be laid out,
written or read. Each cause keeps the data that its message names. -/

namespace KernelLaunch

/-- What a value is, apart from its content. -/
inductive ValueKind where
  | int
  | uint
  | float
  | complex
  | bool
  | array (element : ScalarType) (rank : Nat)
  deriving DecidableEq

def ValueKind.text : ValueKind → String
  | .int => "int"
  | .uint => "uint"
  | .float => "float"
  | .complex => "complex"
  | .bool => "bool"
  | .array element rank => s!"array({element.name}, {rank}d)"

inductive MarshalError where
  | rankMismatch (declared observed : Nat)
  | unsupportedType (type : ArgType)
  | typeMismatch (expected : ArgType) (actual : ValueKind)
  /-- An integer that the type does not hold exactly. -/
  | integerOutOfRange (type : ScalarType) (value : Int)
  /-- A finite number beyond the largest finite number of the type. -/
  | realOutOfRange (type : ScalarType) (value : FloatBits .double)
  | extentMismatch (required available : Nat)
  | strideCount (strides rank : Nat)
  | negativeStride (stride : Int)
  | shapeOverflow (shape : List Nat)
  | bufferTooSmall (offset size length : Nat)
  | noSuchArgument (index count : Nat)
  | cellTooLarge (cell range index : Nat)
  /-- The buffer would be larger than any allocation. -/
  | unallocatable
  deriving DecidableEq

def bracketed (items : List String) : String := "[" ++ ", ".intercalate items ++ "]"

def MarshalError.message : MarshalError → String
  | .rankMismatch declared observed =>
    s!"array rank mismatch: declared {declared}d, observed {observed}d"
  | .unsupportedType type => s!"unsupported argument type: {type.text}"
  | .typeMismatch expected actual =>
    s!"argument type mismatch: expected {expected.text}, got {actual.text}"
  | .integerOutOfRange type value => s!"value {value} out of range for {type.name}"
  | .realOutOfRange type value => s!"value {value.text} out of range for {type.name}"
  | .extentMismatch required available =>
    s!"array extent mismatch: shape requires {required} bytes, data holds {available} bytes"
  | .strideCount strides rank => s!"invalid strides: {strides} strides for a {rank}d shape"
  | .negativeStride stride => s!"invalid strides: negative stride {stride}"
  | .shapeOverflow shape =>
    s!"invalid strides: shape {bracketed (shape.map toString)} overflows the address space"
  | .bufferTooSmall offset size length =>
    s!"kernarg buffer too small: offset {offset} + size {size} > length {length}"
  | .noSuchArgument index count =>
    s!"invalid kernarg layout: argument index {index} out of range for {count} arguments"
  | .cellTooLarge cell range index =>
    s!"invalid kernarg layout: {cell}-byte cell does not fit {range}-byte slot range of argument {index}"
  | .unallocatable => "invalid kernarg layout: invalid parameters to Layout::from_size_align"

end KernelLaunch
