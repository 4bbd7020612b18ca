import KernelLaunch.Cell
import KernelLaunch.Overflow

/-! Reading typed values back from a filled argument buffer. A typed read first moves up to the
next multiple of the value's width, and stays there even if the value then lies past the end. -/

namespace KernelLaunch

structure Reader where
  buffer : Bytes
  offset : Nat := 0

namespace Reader

abbrev Reading (α : Type) := Except (Fault MarshalError) α × Reader

def seek (reader : Reader) (offset : Nat) : Reader := { reader with offset }

/-- The next `size` bytes, wherever the reader stands. -/
def readBytes (reader : Reader) (size : Nat) : Reading Bytes :=
  match addWords reader.offset size with
  | .error overflow => (.error (.overflow overflow), reader)
  | .ok stop =>
    if stop ≤ reader.buffer.length then
      (.ok ((reader.buffer.drop reader.offset).take size), reader.seek stop)
    else
      (.error (.refused (.bufferTooSmall reader.offset size reader.buffer.length)), reader)

/-- The reader at the next multiple of a width. -/
def align (reader : Reader) (width : Nat) : Except Overflow Reader :=
  let beyond := reader.offset % width
  if beyond = 0 then .ok reader
  else (addWords reader.offset (width - beyond)).map reader.seek

def readNumber (reader : Reader) (width : Nat) : Reading Nat :=
  match reader.align width with
  | .error overflow => (.error (.overflow overflow), reader)
  | .ok aligned =>
    let (bytes, after) := aligned.readBytes width
    (bytes.map Bytes.toNat, after)

def readBits (reader : Reader) (bits : Nat) : Reading (BitVec bits) :=
  let (number, after) := reader.readNumber (bits / 8)
  (number.map (BitVec.ofNat bits), after)

def readAddress (reader : Reader) : Reading UInt64 :=
  let (number, after) := reader.readNumber slotSize
  (number.map UInt64.ofNat, after)

/-- One scalar; the two parts of a complex number are read one after the other. -/
def readPayload (reader : Reader) : (type : ScalarType) → Reading type.Payload
  | .signed width | .unsigned width => reader.readBits width.bits
  | .real precision => reader.readBits precision.width
  | .complex precision =>
    match reader.readBits precision.width with
    | (.error fault, after) => (.error fault, after)
    | (.ok re, after) =>
      let (im, last) := after.readBits precision.width
      (im.map fun im => (re, im), last)

end Reader
end KernelLaunch
