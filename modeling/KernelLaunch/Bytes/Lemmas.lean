import KernelLaunch.Bytes
import Mathlib

/-! Writing a number as little-endian bytes and reading it back: each undoes the other, up to the
number of bytes. -/

namespace KernelLaunch
namespace Bytes

theorem toNat_littleEndian (count number : Nat) :
    toNat (littleEndian count number) = number % 256 ^ count := by
  induction count generalizing number with
  | zero => simp [littleEndian, toNat, Nat.mod_one]
  | succ count ih =>
    have split : number % 256 ^ (count + 1) = number % 256 + 256 * (number / 256 % 256 ^ count) := by
      rw [Nat.pow_succ', Nat.mod_mul]
    rw [littleEndian, toNat, ih, split, UInt8.toNat_ofNat']

theorem toNat_lt (bytes : Bytes) : toNat bytes < 256 ^ bytes.length := by
  induction bytes with
  | nil => simp [toNat]
  | cons byte rest ih =>
    have small := byte.toNat_lt
    simp only [toNat, List.length_cons, Nat.pow_succ]
    omega

theorem littleEndian_toNat (bytes : Bytes) : littleEndian bytes.length (toNat bytes) = bytes := by
  induction bytes with
  | nil => rfl
  | cons byte rest ih =>
    have small := byte.toNat_lt
    simp only [List.length_cons, littleEndian, toNat]
    congr 1
    · apply UInt8.toNat_inj.mp
      simp only [UInt8.toNat_ofNat']
      omega
    · have : (byte.toNat + 256 * toNat rest) / 256 = toNat rest := by omega
      rw [this, ih]

/-- The low bytes of a number are written first, and the others as if they stood alone. -/
theorem littleEndian_append {low : Nat} (first second : Nat) (small : low < 256 ^ first) (high : Nat) :
    littleEndian (first + second) (low + 256 ^ first * high) = littleEndian first low ++ littleEndian second high := by
  induction first generalizing low with
  | zero =>
    obtain rfl := Nat.lt_one_iff.mp small
    simp [littleEndian]
  | succ first ih =>
    have rest : low / 256 < 256 ^ first := by
      rw [Nat.pow_succ] at small
      omega
    have split : low + 256 ^ (first + 1) * high = low + 256 * (256 ^ first * high) := by ring
    have byte : UInt8.ofNat (low + 256 * (256 ^ first * high)) = UInt8.ofNat low := by
      apply UInt8.toNat_inj.mp
      simp only [UInt8.toNat_ofNat']
      omega
    rw [Nat.succ_add, split]
    simp only [littleEndian, byte, List.cons_append]
    rw [Nat.add_mul_div_left _ _ (by decide), ih rest]

/-- Bits read from as many bytes are written as these bytes. -/
theorem littleEndian_ofNat {bits : Nat} (whole : 8 ∣ bits) {content : Bytes}
    (length : content.length = bits / 8) :
    littleEndian (bits / 8) (BitVec.ofNat bits content.toNat).toNat = content := by
  have limit : 256 ^ (bits / 8) = 2 ^ bits := by
    rw [show 256 = 2 ^ 8 from rfl, ← Nat.pow_mul, Nat.mul_div_cancel' whole]
  have small := content.toNat_lt
  rw [length, limit] at small
  rw [BitVec.toNat_ofNat, Nat.mod_eq_of_lt small, ← length]
  exact littleEndian_toNat content

end Bytes
end KernelLaunch
