import KernelLaunch.Overflow

/-! Extents along the axes of a launch. -/

namespace KernelLaunch

structure Dims where
  extents : List UInt32
  deriving DecidableEq

namespace Dims

def rank (dims : Dims) : Nat := dims.extents.length

/-- A product that stays at the largest word once it would pass it. -/
def saturatingMul (left right : Nat) : Nat := min (wordLimit - 1) (left * right)

def workItems (dims : Dims) : Nat :=
  dims.extents.foldl (fun items extent => saturatingMul items extent.toNat) 1

/-- The same extents followed by ones up to a rank; extents are never cut off. -/
def paddedTo (dims : Dims) (rank : Nat) : Dims :=
  ⟨dims.extents ++ List.replicate (rank - dims.rank) 1⟩

def text (dims : Dims) : String :=
  let inner := ", ".intercalate (dims.extents.map fun extent => toString extent.toNat)
  if dims.rank = 1 then s!"({inner},)" else s!"({inner})"

/-- Sizes a launch can have: there is an axis, and no axis is empty. -/
def Usable (dims : Dims) : Prop := dims.extents ≠ [] ∧ ∀ extent ∈ dims.extents, extent ≠ 0

theorem rank_paddedTo (dims : Dims) (rank : Nat) :
    (dims.paddedTo rank).rank = max dims.rank rank := by
  simp only [paddedTo, Dims.rank, List.length_append, List.length_replicate]
  omega

/-- Padding adds ones only, so it keeps sizes usable. -/
theorem Usable.paddedTo {dims : Dims} (usable : dims.Usable) (rank : Nat) :
    (dims.paddedTo rank).Usable := by
  obtain ⟨nonempty, positive⟩ := usable
  refine ⟨fun none => nonempty (List.append_eq_nil_iff.mp none).1, fun extent member => ?_⟩
  rcases List.mem_append.mp member with given | one
  · exact positive extent given
  · rw [List.eq_of_mem_replicate one]
    decide

theorem paddedTo_of_rank_le {dims : Dims} {rank : Nat} (enough : rank ≤ dims.rank) :
    dims.paddedTo rank = dims := by
  simp [paddedTo, Nat.sub_eq_zero_of_le enough]

end Dims
end KernelLaunch
