import KernelLaunch.ArrayView
import KernelLaunch.Bytes

/-! What a kernel sees of an array: one word each for two null links to the owner of the data, the
number of elements, their size and the base address, then the extents, then the strides. -/

namespace KernelLaunch

structure Descriptor where
  rank : Nat
  words : List Int64
  deriving DecidableEq

namespace Descriptor

def headerWords : Nat := 5

def ofView (view : ArrayView) : Descriptor where
  rank := view.rank
  words :=
    [0, 0, Int64.ofNat view.count, Int64.ofNat view.itemSize, view.base.toInt64]
      ++ view.shape.map Int64.ofNat ++ view.strides

def byteSize (descriptor : Descriptor) : Nat := 8 * descriptor.words.length

def word (descriptor : Descriptor) (index : Nat) : Int64 := descriptor.words.getD index 0

def memoryInfo (descriptor : Descriptor) : Int64 := descriptor.word 0

def parent (descriptor : Descriptor) : Int64 := descriptor.word 1

def itemCount (descriptor : Descriptor) : Int64 := descriptor.word 2

def itemSize (descriptor : Descriptor) : Int64 := descriptor.word 3

def data (descriptor : Descriptor) : UInt64 := (descriptor.word 4).toUInt64

def shape (descriptor : Descriptor) : List Int64 :=
  (descriptor.words.drop headerWords).take descriptor.rank

def strides (descriptor : Descriptor) : List Int64 :=
  descriptor.words.drop (headerWords + descriptor.rank)

def bytes (descriptor : Descriptor) : Bytes :=
  descriptor.words.flatMap fun word => Bytes.littleEndian 8 word.toUInt64.toNat

end Descriptor
end KernelLaunch
