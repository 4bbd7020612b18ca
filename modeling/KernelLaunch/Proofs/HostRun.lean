import KernelLaunch.Host.Launch
import KernelLaunch.Proofs.FilledBuffer
import KernelLaunch.Proofs.LentMemory

/-! The stages of a launch on the reference device, without the events that are reported on the way:
no answer depends on those. Each stage has one equation, which says how it ends and how it leaves
the device. -/

namespace KernelLaunch

theorem SymbolTable.hasCodeAt_of_find? {table : SymbolTable} {name : String} {offset : UInt64}
    (found : table.find? name = some offset) : table.hasCodeAt offset = true := by
  obtain ⟨symbol, first, same⟩ := Option.map_eq_some_iff.mp found
  exact List.any_eq_true.mpr ⟨symbol, List.mem_of_find?_eq_some first, beq_iff_eq.mpr same⟩

namespace Context

def programmed (context : Context) : Context :=
  { context with
    finalizer := { context.finalizer with programs := context.finalizer.programs + 1 } }

def finalized (context : Context) : Context :=
  { context.programmed with finalizer := context.programmed.finalizer.counted }

/-- The place of the region that a launch puts its arguments in. -/
def kernargIndex? (context : Context) : Option Nat := context.regions.findIdx? Region.kernargs

def nextCode (context : Context) (offset : UInt64) : CodeDescriptor :=
  ⟨context.finalizer.finalizations + 1, offset, context.agent⟩

def answer (request : Request Module Program) (context : Context) : request.Answer × Context :=
  let (reply, host) := HostSession.answer request { context }
  (reply, host.context)

theorem answer_eq (request : Request Module Program) (host : HostSession) :
    host.context.answer request =
      ((HostSession.answer request host).1, (HostSession.answer request host).2.context) := by
  cases request with
  | finalize program agent handle offset =>
    simp only [answer, HostSession.answer]
    cases host.context.finalize program agent handle offset <;> rfl
  | _ => rfl

/-- The device answers as it would if nobody recorded what is reported. -/
theorem run_answer {α : Type} (dialogue : Dialogue Module Program α) (host : HostSession) :
    dialogue.run answer host.context =
      ((dialogue.run HostSession.answer host).1, (dialogue.run HostSession.answer host).2.context) := by
  induction dialogue generalizing host with
  | done value => rfl
  | ask request next ih =>
    simp only [Dialogue.run]
    rw [answer_eq]
    exact ih ..

end Context

namespace Dialogue

variable {M P α β σ : Type} (answer : (request : Request M P) → σ → request.Answer × σ)

@[simp] theorem run_pure (value : α) (state : σ) :
    (pure value : Dialogue M P α).run answer state = (value, state) := rfl

theorem run_then (dialogue : Dialogue M P α) (next : α → Dialogue M P β) {state after : σ} {value : α}
    (first : dialogue.run answer state = (value, after)) :
    (dialogue >>= next).run answer state = (next value).run answer after := by
  have joined := run_bind answer dialogue next state
  rw [first] at joined
  exact joined

end Dialogue

namespace Launch
open Dialogue

theorem run_clock (context : Context) :
    (clock : Dialogue Module Program Nat).run Context.answer context = ((0 : Nat), context) := rfl

theorem run_report (event : Event) (context : Context) :
    (report event : Dialogue Module Program Unit).run Context.answer context = ((), context) := rfl

theorem run_agent (context : Context) :
    (Dialogue.request .agent).run Context.answer context = (context.agentInfo, context) := rfl

theorem run_selectQueue (context : Context) (stream : Option StreamId) :
    (selectQueue stream).run Context.answer context = ((context.queue? stream).isSome, context) := by
  cases stream with
  | none => rfl
  | some stream => rfl

theorem run_resolve (context : Context) (order : LaunchOrder) :
    (resolve order).run Context.answer context =
      (match Image.parse order.handle.image with
        | .error fault => .error (.invalidImage (.invalidImage fault.message))
        | .ok table =>
          match table.find? (symbol order) with
          | none => .error (.symbolNotFound (symbol order))
          | some offset => .ok (.loaded table, offset), context) := by
  have loaded : (Dialogue.request (.loadModule order.handle.image)).run Context.answer context =
      (Context.loadModule order.handle.image, context) := rfl
  rw [resolve, run_then _ _ _ loaded, Context.loadModule]
  cases Image.parse order.handle.image with
  | error fault => rfl
  | ok table =>
    have looked : (Dialogue.request (.findSymbol (.loaded table) (symbol order))).run Context.answer
        context = (table.find? (symbol order), context) := rfl
    simp only
    rw [run_then _ _ _ looked]
    cases table.find? (symbol order) <;> rfl

theorem run_timed {α : Type} (span : TimedSpan) (dialogue : Dialogue Module Program α)
    (context : Context) :
    (timed span dialogue).run Context.answer context = dialogue.run Context.answer context := by
  have silent (events : List Event) (state : Context) :
      (events.forM report : Dialogue Module Program Unit).run Context.answer state = ((), state) := by
    induction events with
    | nil => rfl
    | cons event events ih => exact ih
  have ended : dialogue.run Context.answer context =
      ((dialogue.run Context.answer context).1, (dialogue.run Context.answer context).2) := rfl
  rw [timed, run_then _ _ _ (run_clock _), run_then _ _ _ ended, run_then _ _ _ (run_clock _),
    run_then _ _ _ (silent _ _)]
  rfl

/-- Finalization of code at a symbol of the image fails only while the device is told to fail. -/
theorem run_finalize (context : Context) {table : SymbolTable} {name : String} {offset : UInt64}
    (found : table.find? name = some offset) :
    (finalize context.agentInfo.name (.loaded table) offset).run Context.answer context =
      match context.finalizer.failure with
      | some reason => (.error (.finalizationFailed reason), context.programmed)
      | none => (.ok (context.nextCode offset), context.finalized) := by
  change (finalize context.agent (.loaded table) offset).run Context.answer context = _
  have created : (Dialogue.request (.createProgram [context.agent])).run Context.answer context =
      (.ok { agents := [context.agent] }, context.programmed) := rfl
  have added : (Dialogue.request (.addModule { agents := [context.agent] } (.loaded table))).run
      Context.answer context.programmed =
      (.ok (⟨0⟩, { agents := [context.agent], modules := [table] }), context.programmed) := rfl
  rw [finalize, run_then _ _ _ created]
  simp only
  rw [run_then _ _ _ added]
  simp only
  -- the offset came from the same table, so a finalizer that works has code there
  have code := table.hasCodeAt_of_find? found
  cases failing : context.finalizer.failure with
  | some reason =>
    have refused : context.programmed.finalize { agents := [context.agent], modules := [table] }
        context.agent ⟨0⟩ offset = .error (.finalizationFailed reason) := by
      simp only [Context.finalize, Program.finalize, Program.refusal?, Context.programmed, failing]
    change Context.answer (.finalize _ _ _ _) _ = _
    simp only [Context.answer, HostSession.answer, refused]
    rfl
  | none =>
    have given : context.programmed.finalize { agents := [context.agent], modules := [table] }
        context.agent ⟨0⟩ offset = .ok (context.nextCode offset, context.finalized) := by
      simp only [Context.finalize, Program.finalize, Program.refusal?, Context.programmed, failing,
        List.mem_singleton, not_true_eq_false, if_false, List.getElem?_cons_zero, code, if_true,
        Context.nextCode, Context.finalized, context.finalizer.inStep]
    change Context.answer (.finalize _ _ _ _) _ = _
    simp only [Context.answer, HostSession.answer, given]
    rfl

theorem findIdx?_agentInfo (context : Context) :
    context.agentInfo.regions.findIdx? RegionInfo.kernargs = context.kernargIndex? := by
  simp only [Context.agentInfo, List.findIdx?_map, Context.kernargIndex?]
  rfl

theorem run_obtain_missing {context : Context} (layout : Layout) (missing : context.kernargIndex? = none) :
    (obtain context.agentInfo layout).run Context.answer context =
      (.error (.noKernargRegion context.agent), context) := by
  rw [obtain, findIdx?_agentInfo, missing]
  rfl

theorem run_obtain_unsized {context : Context} {layout : Layout} {index : Nat} {cause : MarshalError}
    (chosen : context.kernargIndex? = some index) (unsized : layout.block = .error cause) :
    (obtain context.agentInfo layout).run Context.answer context = (.error (.kernargLayout cause), context) := by
  rw [obtain, findIdx?_agentInfo, chosen]
  simp only [unsized]
  rfl

theorem run_allocate (context : Context) (index : Nat) (block : Block) :
    (Dialogue.request (.allocate index block)).run Context.answer context = context.allocate index block := rfl

theorem run_obtain_unplaced {context : Context} {layout : Layout} {index : Nat} {region : Region}
    {block : Block} (chosen : context.kernargIndex? = some index)
    (present : context.regions[index]? = some region) (sized : layout.block = .ok block)
    (unplaced : context.heap.place context.placements block = none) :
    (obtain context.agentInfo layout).run Context.answer context =
      (.error (.kernargAllocation block.size
        (.allocationFailed block.size block.align "host allocator returned null")), context) := by
  have asked := run_allocate context index block
  rw [Context.allocate_unplaced present (Layout.block_positive sized) unplaced] at asked
  rw [obtain, findIdx?_agentInfo, chosen]
  simp only [sized]
  rw [run_then _ _ _ (run_clock _), run_then _ _ _ asked]
  rfl

theorem run_obtain_available {context : Context} {layout : Layout} {index : Nat} {region : Region}
    {block : Block} {address : UInt64} (chosen : context.kernargIndex? = some index)
    (sized : layout.block = .ok block) (available : context.Available index region block address) :
    (obtain context.agentInfo layout).run Context.answer context =
      (.ok (index, region.cleared address block),
        context.setRegion index (region.lent address block)) := by
  have asked := run_allocate context index block
  rw [Context.allocate_available available] at asked
  rw [obtain, findIdx?_agentInfo, chosen]
  simp only [sized]
  rw [run_then _ _ _ (run_clock _), run_then _ _ _ asked]
  rfl

variable {context : Context} {index : Nat} {region : Region} {block : Block} {address : UInt64}

theorem run_free (available : context.Available index region block address) (bytes : Bytes) :
    (Dialogue.request (.free index { region.cleared address block with bytes })).run Context.answer
        (context.setRegion index (region.lent address block)) =
      (.ok (), context.setRegion index (region.served bytes)) := by
  change Context.answer (.free _ _) _ = _
  simp only [Context.answer, HostSession.answer, Context.free_lent available]

/-- Taking back the buffer of a launch never fails on this device, so nothing is reported of it. -/
theorem run_abandon (available : context.Available index region block address) (agent : AgentInfo)
    (bytes : Bytes) :
    (abandon agent index { region.cleared address block with bytes }).run Context.answer
        (context.setRegion index (region.lent address block)) =
      ((), context.setRegion index (region.served bytes)) := by
  rw [abandon, run_then _ _ _ (run_free available bytes)]
  rfl

theorem run_dispatch (context : Context) (submission : Submission) :
    (Dialogue.request (.dispatch submission)).run Context.answer context =
      context.dispatch submission.stream submission.code submission.kernargs submission.workgroup
        submission.grid := rfl

variable {order : LaunchOrder} {submission : Submission} {queue : Queue} {bytes : Bytes}

theorem run_submit_refused (available : context.Available index region block address)
    (handed : submission.kernargs = { region.cleared address block with bytes })
    (chosen : context.queue? submission.stream = some queue) {reason : String}
    (refused : queue.refusal? submission.workgroup submission.grid = some reason) :
    (submit order index submission).run Context.answer
        (context.setRegion index (region.lent address block)) =
      (refuse (.dispatch (symbol order) (.dispatchFailed reason)),
        context.setRegion index (region.served bytes)) := by
  have held : (context.setRegion index (region.lent address block)).queue? submission.stream = some queue :=
    (Context.queue?_congr rfl rfl _).trans chosen
  have submitted := run_dispatch (context.setRegion index (region.lent address block)) submission
  rw [Context.dispatch_refused held refused] at submitted
  have freed := run_free available bytes
  rw [← handed] at freed
  rw [submit, run_then _ _ _ (run_clock _), run_then _ _ _ submitted, run_then _ _ _ freed]
  rfl

def recordOf (submission : Submission) : DispatchRecord :=
  ⟨submission.code, submission.kernargs.address, submission.kernargs.bytes, submission.workgroup,
    submission.grid⟩

theorem run_submit_accepted (available : context.Available index region block address)
    (handed : submission.kernargs = { region.cleared address block with bytes })
    (chosen : context.queue? submission.stream = some queue)
    (accepted : queue.refusal? submission.workgroup submission.grid = none) :
    (submit order index submission).run Context.answer
        (context.setRegion index (region.lent address block)) =
      (.ok (), (context.recorded submission.stream (recordOf submission)).setRegion index
        (region.served bytes)) := by
  have held : (context.setRegion index (region.lent address block)).queue? submission.stream = some queue :=
    (Context.queue?_congr rfl rfl _).trans chosen
  have submitted : (Dialogue.request (.dispatch submission)).run Context.answer
      (context.setRegion index (region.lent address block)) =
      (.ok (), (context.recorded submission.stream (recordOf submission)).setRegion index
        (region.lent address block)) := by
    rw [run_dispatch, Context.dispatch_accepted held accepted, Context.recorded,
      Context.updateQueue_setRegion]
    rfl
  have freed := run_free (available.recorded submission.stream (recordOf submission)) bytes
  rw [← handed] at freed
  rw [submit, run_then _ _ _ (run_clock _), run_then _ _ _ submitted, run_then _ _ _ freed]
  rfl

def submissionOf (order : LaunchOrder) (code : CodeDescriptor) (kernargs : Buffer) (slots : List Slot) :
    Submission where
  stream := order.configuration.stream
  code
  kernargs
  workgroup := order.configuration.geometry.workgroup
  grid := order.configuration.geometry.global
  descriptors := slots.filterMap Slot.descriptor?

variable {agent : AgentInfo} {code : CodeDescriptor} {layout : Layout} {slots : List Slot}

theorem run_useBuffer_unmarshaled (available : context.Available index region block address)
    {place : Nat} {cause : MarshalError}
    (refused : marshalAll order.homes order.arguments order.handle.types = .error (place, cause)) :
    (useBuffer order agent code layout index (region.cleared address block)).run Context.answer
        (context.setRegion index (region.lent address block)) =
      (refuse (.argument place cause),
        context.setRegion index (region.served (List.replicate block.size 0))) := by
  have abandoned := run_abandon available agent (List.replicate block.size 0)
  rw [useBuffer, refused]
  simp only
  rw [run_then _ _ _ (run_report _ _)]
  exact run_then _ _ _ abandoned

theorem useBuffer_filled (converted : marshalAll order.homes order.arguments order.handle.types = .ok slots)
    (filled : fill layout (List.replicate block.size 0) slots = (bytes, .ok ())) :
    (useBuffer order agent code layout index (region.cleared address block) :
        Dialogue Module Program Outcome) =
      submit order index
        (submissionOf order code { region.cleared address block with bytes } slots) := by
  rw [useBuffer, converted]
  simp only [Region.cleared, filled]
  rfl

end Launch
end KernelLaunch
