import KernelLaunch.Proofs.LaunchCourse

/-! What a launch changes on the reference device. The outcome alone tells which counters have moved;
whatever it is, no memory stays in use that was not in use before. -/

namespace KernelLaunch

namespace Context

/-- What no launch touches: the memory in use and the failed frees of each region, the names and
the standing failures of queues and programs, and how the device was set up. -/
structure Undisturbed (context after : Context) : Prop where
  agent : after.agent = context.agent
  heap : after.heap = context.heap
  failure : after.finalizer.failure = context.finalizer.failure
  regions : after.regions.map (fun region =>
      (region.name, region.kernargs, region.live, region.stats.rejectedFrees)) =
    context.regions.map fun region =>
      (region.name, region.kernargs, region.live, region.stats.rejectedFrees)
  queues : after.queues.map (fun queue => (queue.name, queue.failure)) =
    context.queues.map fun queue => (queue.name, queue.failure)

/-- A launch took its buffer from the first region for kernel arguments and gave it back with these
contents. -/
def Served (context : Context) (bytes : Bytes) (after : Context) : Prop :=
  ∃ index region, context.kernargIndex? = some index ∧ context.regions[index]? = some region ∧
    after = context.setRegion index (region.served bytes)

theorem Undisturbed.refl (context : Context) : context.Undisturbed context :=
  ⟨rfl, rfl, rfl, rfl, rfl⟩

theorem Undisturbed.trans {first second third : Context} (before : first.Undisturbed second)
    (after : second.Undisturbed third) : first.Undisturbed third where
  agent := after.agent.trans before.agent
  heap := after.heap.trans before.heap
  failure := after.failure.trans before.failure
  regions := after.regions.trans before.regions
  queues := after.queues.trans before.queues

theorem undisturbed_programmed (context : Context) : context.Undisturbed context.programmed :=
  ⟨rfl, rfl, rfl, rfl, rfl⟩

theorem undisturbed_finalized (context : Context) : context.Undisturbed context.finalized :=
  ⟨rfl, rfl, rfl, rfl, rfl⟩

variable {context after : Context}

theorem undisturbed_of_served {bytes : Bytes} (served : context.Served bytes after) :
    context.Undisturbed after := by
  obtain ⟨index, region, first, present, rfl⟩ := served
  refine ⟨rfl, rfl, rfl, ?_, rfl⟩
  obtain ⟨inside, rfl⟩ := List.getElem?_eq_some_iff.mp present
  apply List.ext_getElem
  · simp only [setRegion, List.length_map, List.length_set]
  · intro place _ _
    simp only [setRegion, List.getElem_map, List.getElem_set]
    split
    · rename_i same
      subst same
      rfl
    · rfl

theorem undisturbed_recorded (context : Context) (target : Option StreamId) (record : DispatchRecord) :
    context.Undisturbed (context.recorded target record) := by
  cases target with
  | none => exact ⟨rfl, rfl, rfl, rfl, rfl⟩
  | some stream =>
    simp only [recorded, updateQueue]
    split
    · exact .refl context
    · refine ⟨rfl, rfl, rfl, rfl, ?_⟩
      apply List.ext_getElem
      · simp only [Context.queues, List.length_map, List.length_cons, List.length_modify]
      · intro place _ _
        cases place with
        | zero => rfl
        | succ place =>
          simp only [Context.queues, List.map_cons, List.getElem_cons_succ, List.getElem_map,
            List.getElem_modify]
          split <;> rfl

end Context

namespace Launch

/-- The device after a launch that ended in some way. A launch whose argument sizes overflow has
finalized its code by then; bad sizes and lost buffers end no launch on this device. -/
def Dictated (context : Context) (order : LaunchOrder) (after : Context) : Outcome → Prop
  | .error (.refused cause) =>
    match cause with
    | .arityMismatch .. | .unknownStream _ | .invalidImage _ | .symbolNotFound _ => after = context
    | .finalization .. => after = context.programmed
    | .noKernargRegion _ | .kernargLayout _ | .kernargAllocation .. => after = context.finalized
    | .argument .. | .dispatch .. => ∃ bytes, context.finalized.Served bytes after
    | .invalidGeometry _ | .release _ => False
  | .error (.overflow _) => after = context.finalized
  | .ok () =>
    ∃ queue record bytes, context.queue? order.configuration.stream = some queue ∧
      (context.finalized.recorded order.configuration.stream record).Served bytes after

variable {context : Context} {order : LaunchOrder} {queue : Queue} {table : SymbolTable} {offset : UInt64}
  {index : Nat} {region : Region} {block : Block} {address : UInt64}

theorem Placed.served (placed : Placed context order queue table offset index region block address)
    (bytes : Bytes) :
    context.finalized.Served bytes (context.finalized.setRegion index (region.served bytes)) :=
  ⟨index, region, placed.first, placed.available.present, rfl⟩

theorem Placed.served_recorded
    (placed : Placed context order queue table offset index region block address)
    (target : Option StreamId) (record : DispatchRecord) (bytes : Bytes) :
    (context.finalized.recorded target record).Served bytes
      ((context.finalized.recorded target record).setRegion index (region.served bytes)) := by
  obtain ⟨regions, _⟩ := context.finalized.updateQueue_frame target
    fun queue => { queue with records := queue.records ++ [record] }
  refine ⟨index, region, ?_, ?_, rfl⟩
  · rw [Context.kernargIndex?, Context.recorded, regions]
    exact placed.first
  · rw [Context.recorded, regions]
    exact placed.available.present

/-- A launch changes the device as its outcome dictates and in no other way. -/
theorem launch_effects (context : Context) (order : LaunchOrder) :
    Dictated context order (context.launch order).2.1 (context.launch order).1 ∧
      context.Undisturbed (context.launch order).2.1 := by
  have course := launch_course context order
  generalize (context.launch order).1 = outcome, (context.launch order).2.1 = after at course ⊢
  cases course with
  | arity | stream | image | symbol => exact ⟨rfl, .refl context⟩
  | finalization => exact ⟨rfl, context.undisturbed_programmed⟩
  | overflow | region | layout | allocation => exact ⟨rfl, context.undisturbed_finalized⟩
  | argument placed unmarshaled =>
    have served := placed.served
    exact ⟨⟨_, served _⟩, context.undisturbed_finalized.trans (Context.undisturbed_of_served (served _))⟩
  | dispatch filled refused =>
    have served := filled.served
    exact ⟨⟨_, served _⟩, context.undisturbed_finalized.trans (Context.undisturbed_of_served (served _))⟩
  | ok filled accepted =>
    have served := filled.served_recorded order.configuration.stream
    have recorded := context.finalized.undisturbed_recorded order.configuration.stream
    exact ⟨⟨_, _, _, filled.chosen, served _ _⟩, context.undisturbed_finalized.trans
      ((recorded _).trans (Context.undisturbed_of_served (served _ _)))⟩

end Launch
end KernelLaunch
