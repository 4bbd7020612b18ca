import KernelLaunch.Kernarg.Error
import KernelLaunch.Overflow

/-! Strided views of array data in host memory. A view is only ever built by the checks of this
module, and it keeps their outcome: one stride per extent, a count of elements that fits an object,
and data that covers every element. -/

namespace KernelLaunch

namespace ArrayView

/-- The product of `count` and the extents, if each product on the way fits a word. -/
def productWithin (count : Nat) : List Nat → Option Nat
  | [] => some count
  | extent :: rest =>
    if count * extent < wordLimit then productWithin (count * extent) rest else none

/-- The number of elements of a shape. Each extent and the number itself must be within the size
of an object. -/
def elementCount? (shape : List Nat) : Option Nat :=
  if shape.all (· ≤ objectLimit) then (productWithin 1 shape).filter (· ≤ objectLimit) else none

/-- The byte offset of the last element, by walking to the end of each axis in turn. -/
def farthest (shape : List Nat) (reached : Nat) : List (Nat × Int64) → Except MarshalError Nat
  | [] => .ok reached
  | (extent, stride) :: rest =>
    if stride < 0 then .error (.negativeStride stride.toInt)
    else
      let next := reached + (extent - 1) * stride.toInt.toNat
      if next < wordLimit then farthest shape next rest else .error (.shapeOverflow shape)

/-- The bytes from the base to the end of the last element; none without elements, whatever the
strides. -/
def requiredBytes (shape : List Nat) (strides : List Int64) (size : Nat) : Except MarshalError Nat :=
  if 0 ∈ shape then .ok 0
  else
    match farthest shape 0 (shape.zip strides) with
    | .error cause => .error cause
    | .ok last => if last + size < wordLimit then .ok (last + size) else .error (.shapeOverflow shape)

/-- The byte strides of elements in row-major order without gaps, and the stride that one more
axis on the left would have. An empty axis counts as one element, so that strides stay positive. -/
def rowMajor? (size : Nat) : List Nat → Option (List Int64 × Nat)
  | [] => some ([], size)
  | extent :: rest =>
    match rowMajor? size rest with
    | none => none
    | some (strides, stride) =>
      let next := stride * max extent 1
      if next ≤ objectLimit then some (Int64.ofNat stride :: strides, next) else none

end ArrayView

/-- A strided view of `byteLength` bytes of data at the address `base`. -/
structure ArrayView where
  base : UInt64
  byteLength : Nat
  element : ScalarType
  shape : List Nat
  /-- Distance in bytes between neighbours along each axis. -/
  strides : List Int64
  count : Nat
  ranks : strides.length = shape.length
  counted : ArrayView.elementCount? shape = some count
  covered : ∃ needed, ArrayView.requiredBytes shape strides element.size = .ok needed ∧ needed ≤ byteLength

namespace ArrayView

def strided (base : UInt64) (byteLength : Nat) (element : ScalarType) (shape : List Nat)
    (strides : List Int64) : Except MarshalError ArrayView :=
  if ranks : strides.length = shape.length then
    match counted : elementCount? shape with
    | none => .error (.shapeOverflow shape)
    | some count =>
      match needs : requiredBytes shape strides element.size with
      | .error cause => .error cause
      | .ok needed =>
        if fits : needed ≤ byteLength then
          .ok { base, byteLength, element, shape, strides, count, ranks, counted,
                covered := ⟨needed, needs, fits⟩ }
        else .error (.extentMismatch needed byteLength)
  else .error (.strideCount strides.length shape.length)

/-- A view without gaps, the same for data that a kernel only reads and for data that it writes to. -/
def contiguous (base : UInt64) (byteLength : Nat) (element : ScalarType) (shape : List Nat) :
    Except MarshalError ArrayView :=
  match rowMajor? element.size shape with
  | none => .error (.shapeOverflow shape)
  | some (strides, _) => strided base byteLength element shape strides

def rank (view : ArrayView) : Nat := view.shape.length

def itemSize (view : ArrayView) : Nat := view.element.size

def isEmpty (view : ArrayView) : Bool := view.count == 0

def summary (view : ArrayView) (base : String) : String :=
  let shape := bracketed (view.shape.map toString)
  let strides := bracketed (view.strides.map fun stride => toString stride.toInt)
  s!"HostArray \x7b data: {base}, dtype: {view.element.code}, shape: {shape}, strides: {strides} \x7d"

end ArrayView
end KernelLaunch
