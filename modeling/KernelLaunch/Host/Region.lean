import KernelLaunch.Driver.Error
import KernelLaunch.Host.Heap

/-! A memory region of the reference device. It numbers the buffers it hands out, takes back only
those, counts what it does, and keeps the contents of every buffer as it was when it came back. -/

namespace KernelLaunch

structure RegionStats where
  allocations : Nat := 0
  frees : Nat := 0
  /-- Buffers offered back that the region had not handed out, or not any more. -/
  rejectedFrees : Nat := 0
  deriving DecidableEq

def RegionStats.live (stats : RegionStats) : Nat := stats.allocations - stats.frees

structure LiveBuffer where
  id : Nat
  placement : Placement
  deriving DecidableEq

structure FreedBuffer where
  id : Nat
  bytes : Bytes
  deriving DecidableEq

structure Region where
  name : String
  kernargs : Bool
  nextId : Nat := 1
  live : List LiveBuffer := []
  stats : RegionStats := {}
  /-- The buffers taken back since the list was last cleared, oldest first. -/
  freed : List FreedBuffer := []
  deriving DecidableEq

namespace Region

/-- Hands out cleared memory, given the memory in use in all regions. A refusal changes nothing. -/
def allocate (heap : Heap) (used : List Placement) (region : Region) (block : Block) :
    Except DriverError (Buffer × Region) :=
  if block.size = 0 then
    .error (.allocationFailed 0 block.align "zero-sized allocation")
  else
    match heap.place used block with
    | none =>
      .error (.allocationFailed block.size block.align "host allocator returned null")
    | some address =>
      .ok
        ({ id := region.nextId, address, block, bytes := List.replicate block.size 0 },
          { region with
            nextId := region.nextId + 1
            live := region.live ++ [⟨region.nextId, ⟨address, block⟩⟩]
            stats := { region.stats with allocations := region.stats.allocations + 1 } })

/-- The entry that a buffer must have among the live ones to be taken back. -/
def entryOf (buffer : Buffer) : LiveBuffer := ⟨buffer.id, ⟨buffer.address, buffer.block⟩⟩

/-- Takes a buffer back and keeps its contents, or counts one more rejection. -/
def free (region : Region) (buffer : Buffer) : Except DriverError Unit × Region :=
  if entryOf buffer ∈ region.live then
    (.ok (),
      { region with
        live := region.live.erase (entryOf buffer)
        stats := { region.stats with frees := region.stats.frees + 1 }
        freed := region.freed ++ [⟨buffer.id, buffer.bytes⟩] })
  else
    (.error (.unknownBuffer buffer.id),
      { region with
        stats := { region.stats with rejectedFrees := region.stats.rejectedFrees + 1 } })

/-- Forgets the contents of the buffers taken back; the counters stay. -/
def clearFreed (region : Region) : Region := { region with freed := [] }

end Region
end KernelLaunch
