import KernelLaunch.Value

/-! Converting values to native cells of their declared types. Kinds are never coerced, and no
integer is rounded: a value that the type does not hold is refused. -/

namespace KernelLaunch

def ScalarType.holds : ScalarType → Int → Bool
  | .signed width, value => -width.half ≤ value ∧ value < width.half
  | .unsigned width, value => 0 ≤ value ∧ value < 2 * width.half
  | _, _ => false

namespace ArgValue

def mismatch (value : ArgValue) (type : ScalarType) : MarshalError :=
  .typeMismatch (.scalar type) value.kind

def integerFor (type : ScalarType) (value : ArgValue) : Except MarshalError Int :=
  match value.integer? with
  | none => .error (value.mismatch type)
  | some integer =>
    if type.holds integer then .ok integer else .error (.integerOutOfRange type integer)

/-- A number in the given precision. A finite number must stay finite; infinities and NaNs pass. -/
def fitReal (type : ScalarType) (bits : FloatBits .double) :
    (precision : Precision) → Except MarshalError (FloatBits precision)
  | .double => .ok bits
  | .single =>
    let narrowed := bits.convert .single
    if bits.isFinite && !narrowed.isFinite then .error (.realOutOfRange type bits) else .ok narrowed

/-- The real number of a value. An integer must survive the conversion unchanged. -/
def realFor (type : ScalarType) (precision : Precision) (value : ArgValue) :
    Except MarshalError (FloatBits precision) :=
  match value with
  | .float bits => fitReal type bits precision
  | _ =>
    match value.integer? with
    | none => .error (value.mismatch type)
    | some integer =>
      match precision.exactInteger? integer with
      | some bits => .ok bits
      | none => .error (.integerOutOfRange type integer)

/-- The complex number of a value; a bare real number gets a positive zero as imaginary part. -/
def complexFor (type : ScalarType) (precision : Precision) (value : ArgValue) :
    Except MarshalError (FloatBits precision × FloatBits precision) :=
  match value with
  | .complex re im => do
    let re ← fitReal type re precision
    let im ← fitReal type im precision
    return (re, im)
  | _ => do
    let re ← value.realFor type precision
    return (re, FloatBits.ofParts precision false 0)

def payloadFor (value : ArgValue) : (type : ScalarType) → Except MarshalError type.Payload
  | .signed width => (value.integerFor (.signed width)).map (BitVec.ofInt width.bits)
  | .unsigned width => (value.integerFor (.unsigned width)).map (BitVec.ofInt width.bits)
  | .real precision => value.realFor (.real precision) precision
  | .complex precision => value.complexFor (.complex precision) precision

end ArgValue

/-- Converts one value to its declared type. The descriptor of an array is kept at `home`. -/
def marshal (home : UInt64) (value : ArgValue) : ArgType → Except MarshalError Slot
  | .array element rank =>
    match value with
    | .array view =>
      if view.rank ≠ rank then .error (.rankMismatch rank view.rank)
      else if view.element ≠ element then .error (.typeMismatch (.array element rank) value.kind)
      else .ok (.array (.ofView view) home)
    | _ => .error (.typeMismatch (.array element rank) value.kind)
  | .scalar type => (value.payloadFor type).map fun payload => .value (.scalar type payload)
  | .boolean => .error (.unsupportedType .boolean)
  | .named name => .error (.unsupportedType (.named name))

/-- Converts the arguments from `index` on, in declared order, and stops at the first that fails.
The descriptor of argument `i` is kept at `homes i`. -/
def marshalFrom (homes : Nat → UInt64) (index : Nat) :
    List ArgValue → List ArgType → Except (Nat × MarshalError) (List Slot)
  | value :: values, type :: types =>
    match marshal (homes index) value type with
    | .error cause => .error (index, cause)
    | .ok slot =>
      match marshalFrom homes (index + 1) values types with
      | .error failure => .error failure
      | .ok slots => .ok (slot :: slots)
  | _, _ => .ok []

def marshalAll (homes : Nat → UInt64) (values : List ArgValue) (types : List ArgType) :
    Except (Nat × MarshalError) (List Slot) :=
  marshalFrom homes 0 values types

end KernelLaunch
