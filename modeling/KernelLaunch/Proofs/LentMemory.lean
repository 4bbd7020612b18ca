import KernelLaunch.Host.Context

/-! What calls change of the reference device, and its memory that is lent and taken back. The heap gives
no address that is in use, so the entry of a new buffer is the only one of its kind among the live ones,
and taking the buffer back leaves these as they were. -/

namespace KernelLaunch

namespace Region

def cleared (region : Region) (address : UInt64) (block : Block) : Buffer :=
  { id := region.nextId, address, block, bytes := List.replicate block.size 0 }

def lent (region : Region) (address : UInt64) (block : Block) : Region :=
  { region with
    nextId := region.nextId + 1
    live := region.live ++ [⟨region.nextId, ⟨address, block⟩⟩]
    stats := { region.stats with allocations := region.stats.allocations + 1 } }

/-- The region after it has handed out a buffer and taken it back with these contents. -/
def served (region : Region) (bytes : Bytes) : Region :=
  { region with
    nextId := region.nextId + 1
    stats := { region.stats with
      allocations := region.stats.allocations + 1
      frees := region.stats.frees + 1 }
    freed := region.freed ++ [⟨region.nextId, bytes⟩] }

theorem free_lent {region : Region} {address : UInt64} {block : Block}
    (fresh : ∀ buffer ∈ region.live, buffer.placement.address ≠ address) (bytes : Bytes) :
    (region.lent address block).free { region.cleared address block with bytes } =
      (.ok (), region.served bytes) := by
  have known : (⟨region.nextId, ⟨address, block⟩⟩ : LiveBuffer) ∈
      region.live ++ [⟨region.nextId, ⟨address, block⟩⟩] :=
    List.mem_append_right _ (List.mem_singleton.mpr rfl)
  have absent : (⟨region.nextId, ⟨address, block⟩⟩ : LiveBuffer) ∉ region.live := by
    intro present
    exact fresh _ present rfl
  simp only [free, entryOf, cleared, lent, if_pos known, List.erase_append_right _ absent,
    List.erase_cons_head, List.append_nil, served]

end Region

/-! ### What calls can change -/

namespace Context

variable (context : Context)

theorem allocate_regions (index : Nat) (block : Block) :
    ∃ regions, (context.allocate index block).2 = { context with regions } := by
  simp only [allocate]
  split
  · exact ⟨_, rfl⟩
  · split
    · exact ⟨_, rfl⟩
    · exact ⟨_, rfl⟩

theorem free_regions (index : Nat) (buffer : Buffer) :
    ∃ regions, (context.free index buffer).2.1 = { context with regions } := by
  simp only [free]
  split
  · exact ⟨_, rfl⟩
  · split
    · exact ⟨_, rfl⟩
    · exact ⟨_, rfl⟩

theorem updateQueue_queues (target : Option StreamId) (change : Queue → Queue) :
    ∃ defaultQueue streams, context.updateQueue target change =
      { context with defaultQueue, streams } := by
  cases target with
  | none => exact ⟨_, _, rfl⟩
  | some stream =>
    simp only [updateQueue]
    split
    · exact ⟨_, _, rfl⟩
    · exact ⟨_, _, rfl⟩

theorem dispatch_queues (target : Option StreamId) (code : CodeDescriptor) (kernargs : Buffer)
    (workgroup : Option Dims) (grid : Dims) :
    ∃ defaultQueue streams, (context.dispatch target code kernargs workgroup grid).2 =
      { context with defaultQueue, streams } := by
  simp only [dispatch]
  split
  · exact ⟨_, _, rfl⟩
  · split
    · exact ⟨_, _, rfl⟩
    · exact context.updateQueue_queues target fun _ => _

theorem finalize_finalizer {program : Program} {agent : String} {handle : ModuleHandle} {offset : UInt64}
    {code : CodeDescriptor} {after : Context}
    (finalized : context.finalize program agent handle offset = .ok (code, after)) :
    ∃ finalizer, after = { context with finalizer } := by
  simp only [finalize] at finalized
  split at finalized
  · cases finalized
  · cases finalized
    exact ⟨_, rfl⟩

end Context

/-! ### Lending and taking back -/

namespace Context

/-- The memory that a region of the device would hand out for a block. -/
structure Available (context : Context) (index : Nat) (region : Region) (block : Block)
    (address : UInt64) : Prop where
  present : context.regions[index]? = some region
  positive : block.size ≠ 0
  placed : context.heap.place context.placements block = some address

variable {context : Context} {index : Nat} {region : Region} {block : Block} {address : UInt64}

theorem mem_placements (present : context.regions[index]? = some region) {buffer : LiveBuffer}
    (live : buffer ∈ region.live) : buffer.placement ∈ context.placements :=
  List.mem_flatMap.mpr ⟨region, List.mem_of_getElem? present, List.mem_map_of_mem live⟩

theorem allocate_available (available : context.Available index region block address) :
    context.allocate index block =
      (.ok (region.cleared address block), context.setRegion index (region.lent address block)) := by
  simp only [allocate, available.present, Region.allocate, if_neg available.positive, available.placed]
  rfl

theorem allocate_unplaced (present : context.regions[index]? = some region)
    (positive : block.size ≠ 0) (unplaced : context.heap.place context.placements block = none) :
    context.allocate index block =
      (.error (.allocationFailed block.size block.align "host allocator returned null"), context) := by
  simp only [allocate, present, Region.allocate, if_neg positive, unplaced]

/-- Taking back a buffer that was just lent, with whatever is in it now. -/
theorem free_lent (available : context.Available index region block address) (bytes : Bytes) :
    (context.setRegion index (region.lent address block)).free index
        { region.cleared address block with bytes } =
      (.ok (), context.setRegion index (region.served bytes), []) := by
  have inside : index < context.regions.length := by
    obtain ⟨inside, _⟩ := List.getElem?_eq_some_iff.mp available.present
    exact inside
  have held : (context.setRegion index (region.lent address block)).regions[index]? =
      some (region.lent address block) := List.getElem?_set_self inside
  have fresh : ∀ buffer ∈ region.live, buffer.placement.address ≠ address := fun buffer live =>
    context.heap.fresh _ _ _ available.placed _ (mem_placements available.present live)
  simp only [free, held]
  simp only [Region.free_lent fresh, setRegion, List.set_set]

theorem updateQueue_setRegion (context : Context) (index : Nat) (region : Region)
    (target : Option StreamId) (change : Queue → Queue) :
    (context.setRegion index region).updateQueue target change =
      (context.updateQueue target change).setRegion index region := by
  cases target with
  | none => rfl
  | some stream =>
    simp only [updateQueue]
    split <;> rfl

theorem updateQueue_frame (context : Context) (target : Option StreamId) (change : Queue → Queue) :
    (context.updateQueue target change).regions = context.regions ∧
      (context.updateQueue target change).heap = context.heap := by
  obtain ⟨defaultQueue, streams, after⟩ := context.updateQueue_queues target change
  rw [after]
  exact ⟨rfl, rfl⟩

theorem Available.updateQueue (available : context.Available index region block address)
    (target : Option StreamId) (change : Queue → Queue) :
    (context.updateQueue target change).Available index region block address := by
  obtain ⟨regions, heap⟩ := context.updateQueue_frame target change
  constructor
  case present =>
    rw [regions]
    exact available.present
  case positive => exact available.positive
  case placed =>
    rw [heap, placements, regions]
    exact available.placed

theorem queue?_congr {first second : Context} (defaults : first.defaultQueue = second.defaultQueue)
    (streams : first.streams = second.streams) (target : Option StreamId) :
    first.queue? target = second.queue? target := by
  cases target with
  | none => exact congrArg some defaults
  | some stream => simp only [queue?, streamQueue?, streams]

def recorded (context : Context) (target : Option StreamId) (record : DispatchRecord) : Context :=
  context.updateQueue target fun queue => { queue with records := queue.records ++ [record] }

theorem Available.recorded (available : context.Available index region block address)
    (target : Option StreamId) (record : DispatchRecord) :
    (context.recorded target record).Available index region block address :=
  available.updateQueue ..

/-- Where a queue is known, only what becomes of that queue counts. -/
theorem updateQueue_congr {target : Option StreamId} {queue : Queue}
    (chosen : context.queue? target = some queue) {first second : Queue → Queue}
    (same : first queue = second queue) :
    context.updateQueue target first = context.updateQueue target second := by
  cases target with
  | none =>
    obtain rfl := Option.some.inj chosen
    simp only [updateQueue, same]
  | some stream =>
    simp only [queue?, streamQueue?] at chosen
    simp only [updateQueue]
    split
    · rfl
    · rename_i positive
      rw [if_neg positive] at chosen
      congr 1
      apply List.ext_getElem?
      intro place
      simp only [List.getElem?_modify]
      split
      · rename_i here
        rw [← here, chosen]
        simp only [Option.map_eq_map, Option.map_some, same]
      · rfl

theorem queue?_updateQueue (context : Context) (target : Option StreamId) (change : Queue → Queue) :
    (context.updateQueue target change).queue? target = (context.queue? target).map change := by
  cases target with
  | none => rfl
  | some stream =>
    simp only [updateQueue, queue?, streamQueue?]
    split
    · rfl
    · simp only [List.getElem?_modify_eq, Option.map_eq_map]

/-- What one queue becomes is not seen in the others. -/
theorem queue?_updateQueue_of_ne (context : Context) {target other : Option StreamId} (apart : other ≠ target)
    (change : Queue → Queue) : (context.updateQueue target change).queue? other = context.queue? other := by
  cases target with
  | none =>
    cases other with
    | none => exact absurd rfl apart
    | some stream => rfl
  | some stream =>
    simp only [updateQueue]
    split
    · rfl
    · rename_i positive
      cases other with
      | none => rfl
      | some other =>
        have elsewhere : stream.number ≠ other.number := by
          intro same
          exact apart (congrArg (fun number => some (StreamId.mk number)) same.symm)
        simp only [queue?, streamQueue?]
        split
        · rfl
        · rename_i counted
          have places : stream.number - 1 ≠ other.number - 1 := by omega
          simp only [List.getElem?_modify, if_neg places]
          cases context.streams[other.number - 1]? <;> rfl

theorem queue?_updateQueue_congr {first second : Context}
    (same : ∀ target, first.queue? target = second.queue? target) (target other : Option StreamId)
    (change : Queue → Queue) :
    (first.updateQueue target change).queue? other = (second.updateQueue target change).queue? other := by
  by_cases here : other = target
  · rw [here, queue?_updateQueue, queue?_updateQueue, same]
  · rw [first.queue?_updateQueue_of_ne here, second.queue?_updateQueue_of_ne here, same]

theorem dispatch_refused {target : Option StreamId} {queue : Queue} {workgroup : Option Dims}
    {grid : Dims} {reason : String} (chosen : context.queue? target = some queue)
    (refused : queue.refusal? workgroup grid = some reason) (code : CodeDescriptor) (kernargs : Buffer) :
    context.dispatch target code kernargs workgroup grid = (.error (.dispatchFailed reason), context) := by
  simp only [dispatch, chosen, Queue.dispatch, refused]

theorem dispatch_accepted {target : Option StreamId} {queue : Queue} {workgroup : Option Dims}
    {grid : Dims} (chosen : context.queue? target = some queue)
    (accepted : queue.refusal? workgroup grid = none) (code : CodeDescriptor) (kernargs : Buffer) :
    context.dispatch target code kernargs workgroup grid =
      (.ok (), context.recorded target ⟨code, kernargs.address, kernargs.bytes, workgroup, grid⟩) := by
  simp only [dispatch, chosen, Queue.dispatch, accepted, recorded]
  congr 1
  exact updateQueue_congr chosen rfl

end Context
end KernelLaunch
