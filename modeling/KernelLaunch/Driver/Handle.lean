import KernelLaunch.Bytes
import KernelLaunch.Kernarg.Layout

/-! What a driver hands out: names of streams and modules, finalized code, and argument memory. -/

namespace KernelLaunch

structure StreamId where
  number : Nat
  deriving DecidableEq

def StreamId.text (stream : StreamId) : String := s!"stream{stream.number}"

def StreamId.sorted (streams : List StreamId) : List StreamId :=
  streams.mergeSort fun left right => left.number ≤ right.number

/-- Names a module within the program it was added to. -/
structure ModuleHandle where
  index : Nat
  deriving DecidableEq

def ModuleHandle.text (handle : ModuleHandle) : String := s!"module{handle.index}"

def hexText (number : Nat) : String := "0x" ++ String.ofList (Nat.toDigits 16 number)

/-- An entry point made ready to run on one agent. -/
structure CodeDescriptor where
  handle : Nat
  offset : UInt64
  agent : String
  deriving DecidableEq

def CodeDescriptor.text (code : CodeDescriptor) : String :=
  s!"code{code.handle}@{hexText code.offset.toNat} on {code.agent}"

/-- Argument memory handed out by a region, to be given back to that region. The holder may write
the bytes; the rest says which memory it is. -/
structure Buffer where
  id : Nat
  address : UInt64
  block : Block
  bytes : Bytes
  deriving DecidableEq

namespace Buffer

def size (buffer : Buffer) : Nat := buffer.block.size

/-- The buffer with bytes from an offset on replaced; what does not fit is left out. -/
def write (buffer : Buffer) (offset : Nat) (bytes : Bytes) : Buffer :=
  let kept := bytes.take (buffer.bytes.length - offset)
  { buffer with
    bytes := buffer.bytes.take offset ++ kept ++ buffer.bytes.drop (offset + kept.length) }

end Buffer
end KernelLaunch
