import Mathlib.Algebra.BigOperators.Group.List.Basic
import KernelLaunch.Dims

/-! How many items a size has. The count is multiplied up from the first axis on and stays at the largest word
once it would pass it. That loses nothing but what lies beyond the largest word: the exact number is cut off
once, wherever on the way it was. -/

namespace KernelLaunch
namespace Dims

/-- The number of items, whether a word holds it or not. -/
def items (dims : Dims) : Nat := (dims.extents.map UInt32.toNat).prod

/-- A factor that was cut off already does not matter: either the other factor is zero, or it only makes the
product larger. -/
theorem saturatingMul_min (left right : Nat) :
    saturatingMul (min (wordLimit - 1) left) right = min (wordLimit - 1) (left * right) := by
  unfold saturatingMul
  by_cases small : left ≤ wordLimit - 1
  · rw [Nat.min_eq_right small]
  · have large : wordLimit - 1 ≤ left := Nat.le_of_not_le small
    rw [Nat.min_eq_left large]
    cases right with
    | zero => rfl
    | succ right =>
      have cut : wordLimit - 1 ≤ (wordLimit - 1) * (right + 1) := Nat.le_mul_of_pos_right _ right.succ_pos
      have whole : wordLimit - 1 ≤ left * (right + 1) := Nat.le_trans cut (Nat.mul_le_mul_right _ large)
      rw [Nat.min_eq_left cut, Nat.min_eq_left whole]

theorem foldl_saturatingMul (extents : List UInt32) (start : Nat) :
    extents.foldl (fun items extent => saturatingMul items extent.toNat) (min (wordLimit - 1) start) =
      min (wordLimit - 1) (start * (extents.map UInt32.toNat).prod) := by
  induction extents generalizing start with
  | nil => rw [List.foldl_nil, List.map_nil, List.prod_nil, Nat.mul_one]
  | cons extent extents ih =>
    rw [List.foldl_cons, saturatingMul_min, ih, List.map_cons, List.prod_cons, Nat.mul_assoc]

theorem workItems_eq_min (dims : Dims) : dims.workItems = min (wordLimit - 1) dims.items := by
  have counted := foldl_saturatingMul dims.extents 1
  rw [Nat.one_mul] at counted
  exact counted

/-- Ones behind the extents are no more items. -/
theorem items_paddedTo (dims : Dims) (rank : Nat) : (dims.paddedTo rank).items = dims.items := by
  rw [items, paddedTo, List.map_append, List.prod_append, List.map_replicate]
  have one : UInt32.toNat 1 = 1 := rfl
  rw [one, List.prod_replicate, Nat.one_pow, Nat.mul_one, items]

/-- The same extents in another order are as many items. -/
theorem items_of_perm {dims other : Dims} (reordered : other.extents.Perm dims.extents) :
    other.items = dims.items :=
  (reordered.map UInt32.toNat).prod_eq

/-- Whatever the partial products on the way, the count is the exact number of items cut off at the largest
word. So it is the same for the extents in every order and with ones behind them. -/
theorem workItems_saturated (dims : Dims) :
    dims.workItems = min (2 ^ 64 - 1) (dims.extents.map UInt32.toNat).prod ∧
    (∀ other : Dims, other.extents.Perm dims.extents → other.workItems = dims.workItems) ∧
    ∀ rank, (dims.paddedTo rank).workItems = dims.workItems := by
  refine ⟨workItems_eq_min dims, ?_, ?_⟩
  · intro other reordered
    rw [workItems_eq_min, workItems_eq_min, items_of_perm reordered]
  · intro rank
    rw [workItems_eq_min, workItems_eq_min, items_paddedTo]

/-- An empty axis behind a product that is cut off already leaves no items, as it does in front. Without it the
count stays at the largest word, with ones behind it too. -/
theorem workItems_saturated_late :
    let vast : Dims := ⟨[4294967295, 4294967295, 4294967295]⟩
    let late : Dims := ⟨[4294967295, 4294967295, 4294967295, 0]⟩
    let early : Dims := ⟨[0, 4294967295, 4294967295, 4294967295]⟩
    late.workItems = 0 ∧ early.extents.Perm late.extents ∧ early.workItems = 0 ∧
      vast.workItems = 18446744073709551615 ∧ (vast.paddedTo 5).workItems = 18446744073709551615 := by
  intro vast late early
  obtain ⟨none, reordering, _⟩ := workItems_saturated late
  obtain ⟨cut, _, padding⟩ := workItems_saturated vast
  have reordered : early.extents.Perm late.extents := by decide
  have noItems : late.workItems = 0 := none.trans (by decide)
  have largest : vast.workItems = 18446744073709551615 := cut.trans (by decide)
  exact ⟨noItems, reordered, (reordering early reordered).trans noItems, largest, (padding 5).trans largest⟩

end Dims
end KernelLaunch
