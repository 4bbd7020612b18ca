/-! Sizes, offsets and counts are natural numbers here, but they live in machine words of 64 bits.
This module states the two limits that follow from that and the outcome of a sum or product that
does not fit a word. -/

namespace KernelLaunch

/-- The first size or offset that no longer fits a word. -/
def wordLimit : Nat := 0x10000000000000000

/-- The largest size of one object in memory: the difference of two addresses inside it must still
be a signed word. -/
def objectLimit : Nat := 0x7fffffffffffffff

/-- As a signed word, no size of an object turns negative. -/
theorem toInt_ofNat_size {size : Nat} (fits : size ≤ objectLimit) : (Int64.ofNat size).toInt = size := by
  have limit : objectLimit < 2 ^ 63 := by decide
  exact Int64.toInt_ofNat_of_lt (Nat.lt_of_le_of_lt fits limit)

/-- Word arithmetic is checked, and a result that does not fit ends the computation. -/
inductive Overflow where
  | addition
  | multiplication
  deriving DecidableEq

def Overflow.message : Overflow → String
  | .addition => "attempt to add with overflow"
  | .multiplication => "attempt to multiply with overflow"

def addWords (left right : Nat) : Except Overflow Nat :=
  if left + right < wordLimit then .ok (left + right) else .error .addition

def mulWords (left right : Nat) : Except Overflow Nat :=
  if left * right < wordLimit then .ok (left * right) else .error .multiplication

/-- How a computation over words fails: by an overflow, or by refusing its input for a cause that
the caller can handle. -/
inductive Fault (ε : Type) where
  | overflow (kind : Overflow)
  | refused (cause : ε)
  deriving DecidableEq

section
variable {left right : Nat}

theorem addWords_of_lt (fits : left + right < wordLimit) : addWords left right = .ok (left + right) :=
  if_pos fits

theorem addWords_of_le (large : wordLimit ≤ left + right) : addWords left right = .error .addition :=
  if_neg (Nat.not_lt.mpr large)

theorem mulWords_of_lt (fits : left * right < wordLimit) : mulWords left right = .ok (left * right) :=
  if_pos fits

theorem mulWords_of_le (large : wordLimit ≤ left * right) : mulWords left right = .error .multiplication :=
  if_neg (Nat.not_lt.mpr large)

end

variable {ε α β : Type}

theorem map_eq_ok {result : Except ε α} {change : α → β} {value : β} :
    result.map change = .ok value ↔ ∃ before, result = .ok before ∧ change before = value := by
  cases result <;> simp [Except.map]

theorem map_eq_error {result : Except ε α} {change : α → β} {cause : ε} :
    result.map change = .error cause ↔ result = .error cause := by
  cases result <;> simp [Except.map]

theorem bind_eq_ok {result : Except ε α} {next : α → Except ε β} {value : β} :
    (result >>= next) = .ok value ↔ ∃ first, result = .ok first ∧ next first = .ok value := by
  cases result <;> simp [bind, Except.bind]

end KernelLaunch
