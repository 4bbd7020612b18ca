import KernelLaunch.Alignment
import KernelLaunch.Driver.Handle

/-! Where the host heap puts memory. All that regions rely on is that a block never gets the
address of memory still in use, nor the null address. -/

namespace KernelLaunch

structure Placement where
  address : UInt64
  block : Block
  deriving DecidableEq

/-- A heap's answer to a request, given the memory in use: an address, or a refusal. -/
structure Heap where
  place : List Placement → Block → Option UInt64
  fresh : ∀ used block address, place used block = some address →
    ∀ placement ∈ used, placement.address ≠ address
  nonNull : ∀ used block address, place used block = some address → address ≠ 0

namespace Heap

/-- The end of memory: the addresses of a process have 47 bits. -/
def addressLimit : Nat := 1 <<< 47

theorem addressLimit_le : addressLimit ≤ UInt64.size := by decide

/-- The first address after some memory, at least `floor`. -/
def firstFree (floor : Nat) (used : List Placement) : Nat :=
  used.foldl (fun free placement => max free (placement.address.toNat + placement.block.size + 1)) floor

theorem le_firstFree (floor : Nat) (used : List Placement) : floor ≤ firstFree floor used := by
  induction used generalizing floor with
  | nil => exact Nat.le_refl floor
  | cons placement rest ih => exact Nat.le_trans (Nat.le_max_left ..) (ih _)

theorem lt_firstFree {floor : Nat} {used : List Placement} {placement : Placement}
    (member : placement ∈ used) : placement.address.toNat < firstFree floor used := by
  induction used generalizing floor with
  | nil => cases member
  | cons first rest ih =>
    rcases List.mem_cons.mp member with rfl | later
    · have first := le_firstFree
        (max floor (placement.address.toNat + placement.block.size + 1)) rest
      simp only [firstFree, List.foldl_cons] at first ⊢
      omega
    · exact ih later

/-- The heap that puts each block after all memory in use, aligned as asked, and refuses a block
that would not end before the end of memory. -/
def ascending : Heap where
  place used block :=
    let address := roundUp (firstFree 4096 used) (max 1 block.align)
    if address + block.size < addressLimit then some (UInt64.ofNat address) else none
  fresh used block address placed placement member := by
    simp only at placed
    split at placed
    · rename_i inside
      have before : placement.address.toNat < firstFree 4096 used := lt_firstFree member
      have aligned := le_roundUp (firstFree 4096 used) (Nat.le_max_left 1 block.align)
      have fits : roundUp (firstFree 4096 used) (max 1 block.align) < UInt64.size :=
        Nat.lt_of_le_of_lt (Nat.le_add_right ..) (Nat.lt_of_lt_of_le inside addressLimit_le)
      intro same
      rw [← Option.some.inj placed] at same
      rw [same, UInt64.toNat_ofNat_of_lt' fits] at before
      omega
    · cases placed
  nonNull used block address placed := by
    simp only at placed
    split at placed
    · rename_i inside
      have low := le_firstFree 4096 used
      have aligned := le_roundUp (firstFree 4096 used) (Nat.le_max_left 1 block.align)
      have fits : roundUp (firstFree 4096 used) (max 1 block.align) < UInt64.size :=
        Nat.lt_of_le_of_lt (Nat.le_add_right ..) (Nat.lt_of_lt_of_le inside addressLimit_le)
      intro null
      rw [← Option.some.inj placed] at null
      have zero := congrArg UInt64.toNat null
      rw [UInt64.toNat_ofNat_of_lt' fits] at zero
      simp at zero
      omega
    · cases placed

end Heap
end KernelLaunch
