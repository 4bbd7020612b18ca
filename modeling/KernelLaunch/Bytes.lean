/-! Numbers as little-endian bytes, and texts as UTF-8. Every multi-byte field of an image, an argument
cell or a descriptor is written in one of these ways, and reading a field undoes writing it. -/

namespace KernelLaunch

abbrev Bytes := List UInt8

namespace Bytes

/-- The lowest `count` bytes of `number`, least significant first. -/
def littleEndian : (count number : Nat) → Bytes
  | 0, _ => []
  | count + 1, number => UInt8.ofNat number :: littleEndian count (number / 256)

def toNat : Bytes → Nat
  | [] => 0
  | byte :: rest => byte.toNat + 256 * toNat rest

def ofText (text : String) : Bytes := text.toByteArray.data.toList

def toText? (bytes : Bytes) : Option String := String.fromUTF8? ⟨bytes.toArray⟩

@[simp] theorem length_littleEndian (count number : Nat) :
    (littleEndian count number).length = count := by
  induction count generalizing number with
  | zero => rfl
  | succ count ih => simp [littleEndian, ih]

theorem toText?_eq_some_iff {bytes : Bytes} {text : String} :
    toText? bytes = some text ↔ bytes = ofText text := by
  simp only [toText?, String.fromUTF8?, ofText]
  constructor
  · intro read
    split at read
    · cases read
      rfl
    · cases read
  · rintro rfl
    exact dif_pos text.isValidUTF8

end Bytes
end KernelLaunch
