/-! Offsets at multiples of an alignment. A block of memory is put at one, and a value of a fixed width is read at
one; both look for the first multiple from where they stand. -/

namespace KernelLaunch

/-- The first multiple of an alignment that is not below an offset. -/
def roundUp (offset align : Nat) : Nat := (offset + align - 1) / align * align

theorem le_roundUp (offset : Nat) {align : Nat} (positive : 0 < align) : offset ≤ roundUp offset align := by
  have whole := Nat.div_add_mod (offset + align - 1) align
  have rest := Nat.mod_lt (offset + align - 1) positive
  rw [Nat.mul_comm] at whole
  unfold roundUp
  omega

section
variable {offset align : Nat}

theorem roundUp_of_aligned (positive : 0 < align) (aligned : offset % align = 0) :
    roundUp offset align = offset := by
  obtain ⟨count, rfl⟩ := Nat.dvd_of_mod_eq_zero aligned
  have rest : (align - 1) / align = 0 := Nat.div_eq_of_lt (Nat.sub_lt positive Nat.one_pos)
  rw [roundUp, Nat.add_sub_assoc positive, Nat.mul_add_div positive, rest, Nat.add_zero, Nat.mul_comm]

theorem roundUp_of_between (positive : 0 < align) (between : offset % align ≠ 0) :
    roundUp offset align = offset + (align - offset % align) := by
  have whole := Nat.div_add_mod offset align
  have small := Nat.mod_lt offset positive
  have split : offset + align - 1 = align * (offset / align + 1) + (offset % align - 1) := by
    rw [Nat.mul_add]
    omega
  have rest : (offset % align - 1) / align = 0 := Nat.div_eq_of_lt (by omega)
  rw [roundUp, split, Nat.mul_add_div positive, rest, Nat.add_zero, Nat.mul_comm, Nat.mul_add]
  omega

/-- No other multiple from the offset on lies before it. -/
theorem roundUp_le {multiple : Nat} (positive : 0 < align) (divides : align ∣ multiple)
    (before : offset ≤ multiple) : roundUp offset align ≤ multiple := by
  obtain ⟨count, rfl⟩ := divides
  rw [roundUp, Nat.mul_comm align]
  apply Nat.mul_le_mul_right
  apply Nat.le_of_lt_succ
  rw [Nat.div_lt_iff_lt_mul positive, Nat.succ_mul, Nat.mul_comm count]
  omega

theorem dvd_roundUp (offset align : Nat) : align ∣ roundUp offset align := Nat.dvd_mul_left ..

theorem roundUp_eq_self_iff (positive : 0 < align) : roundUp offset align = offset ↔ align ∣ offset := by
  constructor
  · intro same
    rw [← same]
    exact dvd_roundUp offset align
  · intro divides
    exact roundUp_of_aligned positive (Nat.mod_eq_zero_of_dvd divides)

/-- A finer multiple on the way to a coarser one makes no difference. -/
theorem roundUp_roundUp {fine coarse : Nat} (positive : 0 < coarse) (divides : fine ∣ coarse) :
    roundUp (roundUp offset fine) coarse = roundUp offset coarse := by
  have smaller := Nat.pos_of_dvd_of_pos divides positive
  apply Nat.le_antisymm
  · apply roundUp_le positive (dvd_roundUp offset coarse)
    exact roundUp_le smaller (Nat.dvd_trans divides (dvd_roundUp offset coarse)) (le_roundUp offset positive)
  · apply roundUp_le positive (dvd_roundUp (roundUp offset fine) coarse)
    exact Nat.le_trans (le_roundUp offset smaller) (le_roundUp _ positive)

end

end KernelLaunch
