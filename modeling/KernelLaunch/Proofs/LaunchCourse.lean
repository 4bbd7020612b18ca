import KernelLaunch.Proofs.HostRun
import KernelLaunch.Proofs.NativeEncoding

/-! Every way in which a launch on the reference device can go, with the device it leaves. The
checks come in a fixed order, and a launch that reaches a later one has passed those before; each
course carries what it passed, so what is known at an exit never has to be derived again. -/

namespace KernelLaunch
namespace Launch

open Dialogue

def layoutOf (order : LaunchOrder) : Layout := .ofFitting order.options.abi order.handle.types

/-- Slots of the argument buffer, reserved ones included. -/
def slotTotal (order : LaunchOrder) : Nat :=
  order.options.abi.injected + Layout.slotsOf order.handle.types

theorem size_layoutOf (order : LaunchOrder) : (layoutOf order).size = slotSize * slotTotal order := by
  change Layout.totalBytes _ _ = _
  rw [Layout.totalBytes, Layout.bytesOf, slotTotal, Nat.mul_add, Nat.mul_comm _ slotSize]

structure Admitted (context : Context) (order : LaunchOrder) (queue : Queue) : Prop where
  arity : order.arguments.length = order.handle.types.length
  chosen : context.queue? order.configuration.stream = some queue

structure Resolved (context : Context) (order : LaunchOrder) (queue : Queue) (table : SymbolTable)
    (offset : UInt64) : Prop extends Admitted context order queue where
  parsed : Image.parse order.handle.image = .ok table
  found : table.find? (symbol order) = some offset

/-- The code has been finalized, and the sizes of the arguments fit a word. -/
structure Laid (context : Context) (order : LaunchOrder) (queue : Queue) (table : SymbolTable)
    (offset : UInt64) : Prop extends Resolved context order queue table offset where
  unfailing : context.finalizer.failure = none
  fits : Layout.totalBytes order.options.abi order.handle.types < wordLimit

structure Placed (context : Context) (order : LaunchOrder) (queue : Queue) (table : SymbolTable)
    (offset : UInt64) (index : Nat) (region : Region) (block : Block) (address : UInt64) : Prop
    extends Laid context order queue table offset where
  first : context.kernargIndex? = some index
  sized : (layoutOf order).block = .ok block
  available : context.Available index region block address

structure Filled (context : Context) (order : LaunchOrder) (queue : Queue) (table : SymbolTable)
    (offset : UInt64) (index : Nat) (region : Region) (block : Block) (address : UInt64)
    (slots : List Slot) (bytes : Bytes) : Prop
    extends Placed context order queue table offset index region block address where
  marshaled : marshalAll order.homes order.arguments order.handle.types = .ok slots
  filled : fill (layoutOf order) (List.replicate block.size 0) slots = (bytes, .ok ())

def kernargs (region : Region) (address : UInt64) (block : Block) (bytes : Bytes) : Buffer :=
  { region.cleared address block with bytes }

/-- The ways of a launch: how it ends, and the device after it. -/
inductive Course (context : Context) (order : LaunchOrder) : Outcome → Context → Prop where
  | arity (differs : order.arguments.length ≠ order.handle.types.length) :
      Course context order
        (refuse (.arityMismatch (symbol order) order.handle.types.length order.arguments.length)) context
  | stream {stream : StreamId} (arity : order.arguments.length = order.handle.types.length)
      (named : order.configuration.stream = some stream) (missing : context.streamQueue? stream = none) :
      Course context order (refuse (.unknownStream stream)) context
  | image {queue : Queue} {fault : ImageError} (admitted : Admitted context order queue)
      (unparsed : Image.parse order.handle.image = .error fault) :
      Course context order (refuse (.invalidImage (.invalidImage fault.message))) context
  | symbol {queue : Queue} {table : SymbolTable} (admitted : Admitted context order queue)
      (parsed : Image.parse order.handle.image = .ok table)
      (missing : table.find? (symbol order) = none) :
      Course context order (refuse (.symbolNotFound (symbol order))) context
  | finalization {queue : Queue} {table : SymbolTable} {offset : UInt64} {reason : String}
      (resolved : Resolved context order queue table offset)
      (failing : context.finalizer.failure = some reason) :
      Course context order (refuse (.finalization (symbol order) (.finalizationFailed reason)))
        context.programmed
  | overflow {queue : Queue} {table : SymbolTable} {offset : UInt64} {kind : Overflow}
      (resolved : Resolved context order queue table offset) (unfailing : context.finalizer.failure = none)
      (large : Layout.ofSignature order.options.abi order.handle.types = .error kind) :
      Course context order (.error (.overflow kind)) context.finalized
  | region {queue : Queue} {table : SymbolTable} {offset : UInt64}
      (laid : Laid context order queue table offset) (missing : context.kernargIndex? = none) :
      Course context order (refuse (.noKernargRegion context.agent)) context.finalized
  | layout {queue : Queue} {table : SymbolTable} {offset : UInt64} {index : Nat} {cause : MarshalError}
      (laid : Laid context order queue table offset) (first : context.kernargIndex? = some index)
      (unsized : (layoutOf order).block = .error cause) :
      Course context order (refuse (.kernargLayout cause)) context.finalized
  | allocation {queue : Queue} {table : SymbolTable} {offset : UInt64} {index : Nat} {block : Block}
      (laid : Laid context order queue table offset) (first : context.kernargIndex? = some index)
      (sized : (layoutOf order).block = .ok block)
      (unplaced : context.heap.place context.placements block = none) :
      Course context order
        (refuse (.kernargAllocation block.size
          (.allocationFailed block.size block.align "host allocator returned null")))
        context.finalized
  | argument {queue : Queue} {table : SymbolTable} {offset : UInt64} {index : Nat} {region : Region}
      {block : Block} {address : UInt64} {place : Nat} {cause : MarshalError}
      (placed : Placed context order queue table offset index region block address)
      (unmarshaled : marshalAll order.homes order.arguments order.handle.types = .error (place, cause)) :
      Course context order (refuse (.argument place cause))
        (context.finalized.setRegion index (region.served (List.replicate block.size 0)))
  | dispatch {queue : Queue} {table : SymbolTable} {offset : UInt64} {index : Nat} {region : Region}
      {block : Block} {address : UInt64} {slots : List Slot} {bytes : Bytes} {reason : String}
      (filled : Filled context order queue table offset index region block address slots bytes)
      (refused : queue.refusal? order.configuration.geometry.workgroup order.configuration.geometry.global =
        some reason) :
      Course context order (refuse (.dispatch (symbol order) (.dispatchFailed reason)))
        (context.finalized.setRegion index (region.served bytes))
  | ok {queue : Queue} {table : SymbolTable} {offset : UInt64} {index : Nat} {region : Region}
      {block : Block} {address : UInt64} {slots : List Slot} {bytes : Bytes}
      (filled : Filled context order queue table offset index region block address slots bytes)
      (accepted : queue.refusal? order.configuration.geometry.workgroup order.configuration.geometry.global =
        none) :
      Course context order (.ok ())
        ((context.finalized.recorded order.configuration.stream
          (recordOf (submissionOf order (context.nextCode offset) (kernargs region address block bytes)
            slots))).setRegion index (region.served bytes))

/-- A converted argument fits its range: no cell is larger than its type's own. -/
theorem fits_of_marshalAll {order : LaunchOrder} {slots : List Slot}
    (marshaled : marshalAll order.homes order.arguments order.handle.types = .ok slots) :
    (layoutOf order).Fits slots := by
  intro index slot taken
  obtain ⟨value, type, _, typeAt, converted⟩ := marshal_of_getElem? marshaled taken
  have range := Layout.getElem?_ranges order.options.abi typeAt
  exact ⟨_, range, ArgType.nativeSize_le_slotBytes (nativeSize_of_marshal converted)⟩

section
variable {context after : Context} {order : LaunchOrder} {outcome : Outcome} {queue : Queue}
  {table : SymbolTable} {offset : UInt64}

theorem useBuffer_course {index : Nat} {region : Region} {block : Block} {address : UInt64}
    (placed : Placed context order queue table offset index region block address)
    (ran : (useBuffer order context.agentInfo (context.nextCode offset) (layoutOf order) index
      (region.cleared address block)).run Context.answer
        (context.finalized.setRegion index (region.lent address block)) = (outcome, after)) :
    Course context order outcome after := by
  have available : context.finalized.Available index region block address :=
    ⟨placed.available.present, placed.available.positive, placed.available.placed⟩
  have chosen : context.finalized.queue? order.configuration.stream = some queue :=
    (Context.queue?_congr rfl rfl _).trans placed.chosen
  cases marshaled : marshalAll order.homes order.arguments order.handle.types with
  | error failure =>
    obtain ⟨place, cause⟩ := failure
    rw [run_useBuffer_unmarshaled available marshaled] at ran
    cases ran
    exact .argument placed marshaled
  | ok slots =>
    have large : (layoutOf order).size ≤ (List.replicate block.size (0 : UInt8)).length := by
      rw [List.length_replicate, Layout.block_eq_ok placed.sized]
      exact Nat.le_max_left ..
    obtain ⟨bytes, filled⟩ := fill_of_fits (Layout.sound_ofFitting ..)
      (fits_of_marshalAll marshaled) large
    have complete : Filled context order queue table offset index region block address slots bytes :=
      ⟨placed, marshaled, filled⟩
    rw [useBuffer_filled marshaled (complete.filled)] at ran
    cases refusal : queue.refusal? order.configuration.geometry.workgroup
        order.configuration.geometry.global with
    | some reason =>
      rw [run_submit_refused available rfl chosen refusal] at ran
      cases ran
      exact .dispatch complete refusal
    | none =>
      rw [run_submit_accepted available rfl chosen refusal] at ran
      cases ran
      exact .ok complete refusal

theorem run_bindAndSubmit (resolved : Resolved context order queue table offset) :
    (bindAndSubmit order).run Context.answer context =
      match context.finalizer.failure with
      | some reason =>
        (refuse (.finalization (symbol order) (.finalizationFailed reason)), context.programmed)
      | none =>
        match Layout.ofSignature order.options.abi order.handle.types with
        | .error overflow => (.error (.overflow overflow), context.finalized)
        | .ok layout =>
          match (Launch.obtain context.agentInfo layout).run Context.answer context.finalized with
          | (.error cause, left) => (refuse cause, left)
          | (.ok (index, buffer), left) =>
            (useBuffer order context.agentInfo (context.nextCode offset) layout index buffer).run
              Context.answer left := by
  have resolution := run_resolve context order
  simp only [resolved.parsed, resolved.found] at resolution
  have finalization := run_finalize context resolved.found
  rw [bindAndSubmit, run_then _ _ _ resolution]
  simp only
  rw [run_then _ _ _ (run_agent context)]
  cases failing : context.finalizer.failure with
  | some reason =>
    rw [failing] at finalization
    rw [run_then _ _ _ finalization]
    rfl
  | none =>
    rw [failing] at finalization
    rw [run_then _ _ _ finalization]
    cases Layout.ofSignature order.options.abi order.handle.types with
    | error overflow => rfl
    | ok layout =>
      simp only
      generalize obtained :
        (Launch.obtain context.agentInfo layout).run Context.answer context.finalized = lent
      obtain ⟨result, left⟩ := lent
      rw [run_then _ _ _ obtained]
      cases result <;> rfl

theorem laid_course (laid : Laid context order queue table offset)
    (ran : (bindAndSubmit order).run Context.answer context = (outcome, after)) :
    Course context order outcome after := by
  have layout : Layout.ofSignature order.options.abi order.handle.types = .ok (layoutOf order) :=
    Layout.ofSignature_of_fits laid.fits
  rw [run_bindAndSubmit laid.toResolved, laid.unfailing, layout] at ran
  simp only at ran
  cases first : context.kernargIndex? with
  | none =>
    have obtained : (Launch.obtain context.agentInfo (layoutOf order)).run Context.answer
        context.finalized = (.error (.noKernargRegion context.agent), context.finalized) :=
      @run_obtain_missing context.finalized _ first
    rw [obtained] at ran
    cases ran
    exact .region laid first
  | some index =>
    cases sized : (layoutOf order).block with
    | error cause =>
      have obtained : (Launch.obtain context.agentInfo (layoutOf order)).run Context.answer
          context.finalized = (.error (.kernargLayout cause), context.finalized) :=
        @run_obtain_unsized context.finalized _ _ _ first sized
      rw [obtained] at ran
      cases ran
      exact .layout laid first sized
    | ok block =>
      obtain ⟨inside, _⟩ := List.findIdx?_eq_some_iff_getElem.mp first
      have present := List.getElem?_eq_getElem inside
      cases placed : context.heap.place context.placements block with
      | none =>
        have obtained : (Launch.obtain context.agentInfo (layoutOf order)).run Context.answer
            context.finalized = (.error (.kernargAllocation block.size
              (.allocationFailed block.size block.align "host allocator returned null")),
              context.finalized) :=
          @run_obtain_unplaced context.finalized _ _ _ _ first present sized placed
        rw [obtained] at ran
        cases ran
        exact .allocation laid first sized placed
      | some address =>
        have available : context.Available index context.regions[index] block address :=
          ⟨present, Layout.block_positive sized, placed⟩
        have obtained := @run_obtain_available context.finalized _ _ _ _ _ first sized
          ⟨available.present, available.positive, available.placed⟩
        rw [show context.finalized.agentInfo = context.agentInfo from rfl] at obtained
        rw [obtained] at ran
        exact useBuffer_course ⟨laid, first, sized, available⟩ ran

theorem bindAndSubmit_course (admitted : Admitted context order queue)
    (ran : (bindAndSubmit order).run Context.answer context = (outcome, after)) :
    Course context order outcome after := by
  have resolution := run_resolve context order
  cases parsed : Image.parse order.handle.image with
  | error fault =>
    rw [parsed] at resolution
    rw [bindAndSubmit, run_then _ _ _ resolution] at ran
    cases ran
    exact .image admitted parsed
  | ok table =>
    simp only [parsed] at resolution
    cases found : table.find? (symbol order) with
    | none =>
      rw [found] at resolution
      rw [bindAndSubmit, run_then _ _ _ resolution] at ran
      cases ran
      exact .symbol admitted parsed found
    | some offset =>
      have resolved : Resolved context order queue table offset := ⟨admitted, parsed, found⟩
      cases failing : context.finalizer.failure with
      | some reason =>
        rw [run_bindAndSubmit resolved, failing] at ran
        cases ran
        exact .finalization resolved failing
      | none =>
        cases laid : Layout.ofSignature order.options.abi order.handle.types with
        | error overflow =>
          rw [run_bindAndSubmit resolved, failing, laid] at ran
          cases ran
          exact .overflow resolved failing laid
        | ok layout => exact laid_course ⟨resolved, failing, Layout.fits_of_ofSignature laid⟩ ran

/-- Every launch on the device goes one of these ways. -/
theorem launch_course (context : Context) (order : LaunchOrder) :
    Course context order (context.launch order).1 (context.launch order).2.1 := by
  have same := Context.run_answer (KernelLaunch.launch order) { context }
  change _ = ((context.launch order).1, (context.launch order).2.1) at same
  generalize (context.launch order).1 = outcome, (context.launch order).2.1 = after at same ⊢
  by_cases arity : order.arguments.length = order.handle.types.length
  · have selected := run_selectQueue context order.configuration.stream
    have bound (queue : Queue) (chosen : context.queue? order.configuration.stream = some queue)
        (ran : (if order.options.timed then timed (span order) (bindAndSubmit order)
          else bindAndSubmit order).run Context.answer context = (outcome, after)) :
        Course context order outcome after := by
      split at ran
      · rw [run_timed] at ran
        exact bindAndSubmit_course ⟨arity, chosen⟩ ran
      · exact bindAndSubmit_course ⟨arity, chosen⟩ ran
    simp only [KernelLaunch.launch, arity, ne_eq, not_true_eq_false, if_false] at same
    rw [run_then _ _ _ selected] at same
    cases named : order.configuration.stream with
    | none =>
      rw [named] at same bound
      exact bound _ rfl same
    | some stream =>
      rw [named] at same bound
      cases chosen : context.queue? (some stream) with
      | none =>
        rw [chosen] at same
        cases same
        exact .stream arity named chosen
      | some queue =>
        rw [chosen] at same
        exact bound queue chosen same
  · rw [KernelLaunch.launch, if_pos arity] at same
    cases same
    exact .arity arity

end
end Launch
end KernelLaunch
