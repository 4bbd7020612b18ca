import KernelLaunch.Dims
import KernelLaunch.Driver.Error
import KernelLaunch.Driver.Handle

/-! A queue of the reference device: it checks a dispatch and records it with the argument bytes as
they are at that moment, and runs nothing. -/

namespace KernelLaunch

structure DispatchRecord where
  code : CodeDescriptor
  address : UInt64
  kernargs : Bytes
  workgroup : Option Dims
  grid : Dims
  deriving DecidableEq

/-- The highest rank of a grid that a dispatch packet can express. -/
def maxDispatchRank : Nat := 3

structure Queue where
  name : String
  records : List DispatchRecord := []
  /-- While set, every dispatch fails for this reason. -/
  failure : Option String := none
  deriving DecidableEq

namespace Queue

def refusal? (queue : Queue) (workgroup : Option Dims) (grid : Dims) : Option String :=
  match queue.failure with
  | some reason => some reason
  | none =>
    if grid.rank = 0 ∨ maxDispatchRank < grid.rank then
      some s!"grid rank {grid.rank} outside 1..={maxDispatchRank}"
    else
      match workgroup with
      | none => none
      | some workgroup =>
        if workgroup.rank = grid.rank then none
        else some s!"workgroup rank {workgroup.rank} does not match grid rank {grid.rank}"

def dispatch (queue : Queue) (code : CodeDescriptor) (kernargs : Buffer) (workgroup : Option Dims)
    (grid : Dims) : Except DriverError Queue :=
  match queue.refusal? workgroup grid with
  | some reason => .error (.dispatchFailed reason)
  | none =>
    .ok
      { queue with
        records := queue.records ++ [⟨code, kernargs.address, kernargs.bytes, workgroup, grid⟩] }

def failDispatches (queue : Queue) (reason : String) : Queue := { queue with failure := some reason }

def clearFailure (queue : Queue) : Queue := { queue with failure := none }

def clearRecords (queue : Queue) : Queue := { queue with records := [] }

end Queue
end KernelLaunch
