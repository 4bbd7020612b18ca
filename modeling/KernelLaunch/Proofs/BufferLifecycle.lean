import KernelLaunch.Launch.Binder
import KernelLaunch.Proofs.Transcript

/-! What a launch asks of a driver that may refuse or answer in any way. Of all its calls only the
finalization and those about argument memory are told here; what is told has one of six shapes, and
every rule about the order and the number of calls is read off them. -/

namespace KernelLaunch

namespace Exchange

variable {M P : Type}

def isAllocation : Exchange M P → Bool
  | ⟨.allocate .., _⟩ => true
  | _ => false

def isDispatch : Exchange M P → Bool
  | ⟨.dispatch _, _⟩ => true
  | _ => false

def isFree : Exchange M P → Bool
  | ⟨.free .., _⟩ => true
  | _ => false

def isFinalization : Exchange M P → Bool
  | ⟨.finalize .., _⟩ => true
  | _ => false

/-- The calls that are told. -/
def essential (exchange : Exchange M P) : Bool :=
  exchange.isFinalization || exchange.isAllocation || exchange.isDispatch || exchange.isFree

def Finalized (exchange : Exchange M P) : Prop :=
  ∃ program agent handle offset code, exchange = ⟨.finalize program agent handle offset, .ok code⟩

theorem Finalized.kind {opening : Exchange M P} (finalized : opening.Finalized) :
    opening.isFinalization = true ∧ opening.isAllocation = false ∧ opening.isDispatch = false ∧
      opening.isFree = false := by
  obtain ⟨_, _, _, _, _, rfl⟩ := finalized
  exact ⟨rfl, rfl, rfl, rfl⟩

end Exchange

/-- Two handles of one piece of memory, whatever each says of its contents. -/
def Buffer.SameMemory (first second : Buffer) : Prop :=
  first.id = second.id ∧ first.address = second.address ∧ first.block = second.block

/-- Failures told before anything has been submitted. -/
def LaunchError.BeforeDispatch : LaunchError → Prop
  | .dispatch .. | .release _ => False
  | _ => True

namespace Launch

open Dialogue Exchange

variable {M P : Type}

/-- What becomes of the bytes of an allocated buffer, and whether they can be submitted. -/
def prepare (order : LaunchOrder) (layout : Layout) (bytes : Bytes) :
    Bytes × Except LaunchError (List Slot) :=
  match marshalAll order.homes order.arguments order.handle.types with
  | .error (index, cause) => (bytes, .error (.argument index cause))
  | .ok slots =>
    match fill layout bytes slots with
    | (filled, .error cause) => (filled, .error cause)
    | (filled, .ok ()) => (filled, .ok slots)

def verdict (order : LaunchOrder) : Except DriverError Unit → Except DriverError Unit → Outcome
  | .error cause, _ => refuse (.dispatch (symbol order) cause)
  | .ok (), .error cause => refuse (.release cause)
  | .ok (), .ok () => .ok ()

def EndsEarly (outcome : Outcome) : Prop :=
  match outcome with
  | .error (.refused cause) => cause.BeforeDispatch
  | .error (.overflow _) => True
  | .ok () => False

/-- What is told of a launch that was never given a buffer. -/
inductive Unlent : List (Exchange M P) → Prop where
  | nothing : Unlent []
  | finalizationFailed {program : P} {agent : String} {handle : ModuleHandle} {offset : UInt64}
      {cause : DriverError} : Unlent [⟨.finalize program agent handle offset, .error cause⟩]
  | finalized {opening : Exchange M P} (finalized : opening.Finalized) : Unlent [opening]
  | allocationFailed {opening : Exchange M P} {region : Nat} {block : Block} {cause : DriverError}
      (finalized : opening.Finalized) : Unlent [opening, ⟨.allocate region block, .error cause⟩]

/-- The shapes of what is told of a launch, each with how the launch then ends. -/
inductive Lifecycle (order : LaunchOrder) : List (Exchange M P) → Outcome → Prop where
  | unlent {told : List (Exchange M P)} {outcome : Outcome} (unlent : Unlent told)
      (early : EndsEarly outcome) : Lifecycle order told outcome
  | abandoned {opening : Exchange M P} {region : Nat} {block : Block} {buffer : Buffer} {layout : Layout}
      {bytes : Bytes} {cause : LaunchError} {reply : Except DriverError Unit}
      (finalized : opening.Finalized)
      (laid : Layout.ofSignature order.options.abi order.handle.types = .ok layout)
      (unprepared : prepare order layout buffer.bytes = (bytes, .error cause)) :
      Lifecycle order
        [opening, ⟨.allocate region block, .ok buffer⟩, ⟨.free region { buffer with bytes }, reply⟩]
        (refuse cause)
  | submitted {opening : Exchange M P} {region : Nat} {block : Block} {buffer : Buffer} {layout : Layout}
      {bytes : Bytes} {slots : List Slot} {submission : Submission}
      {submitted released : Except DriverError Unit} (finalized : opening.Finalized)
      (arity : order.arguments.length = order.handle.types.length)
      (laid : Layout.ofSignature order.options.abi order.handle.types = .ok layout)
      (prepared : prepare order layout buffer.bytes = (bytes, .ok slots))
      (handed : submission.kernargs = { buffer with bytes }) :
      Lifecycle order
        [opening, ⟨.allocate region block, .ok buffer⟩, ⟨.dispatch submission, submitted⟩,
          ⟨.free region submission.kernargs, released⟩]
        (verdict order submitted released)

/-! ### The stages -/

theorem quiet_report (event : Event) : Quiet essential (report event : Dialogue M P Unit) :=
  Quiet.request fun _ => rfl

theorem quiet_clock : Quiet essential (clock : Dialogue M P Nat) := Quiet.request fun _ => rfl

theorem quiet_selectQueue (stream : Option StreamId) :
    Quiet essential (selectQueue stream : Dialogue M P Bool) := by
  cases stream with
  | none => exact (Quiet.request fun _ => rfl).bind fun _ => Ends.pure rfl
  | some stream => exact Quiet.request fun _ => rfl

theorem resolve_ends (order : LaunchOrder) :
    Ends essential
      (fun told result => told = [] ∧ ∀ cause, result = .error cause → cause.BeforeDispatch)
      (resolve order : Dialogue M P (Except LaunchError (M × UInt64))) := by
  refine (Quiet.request fun _ => rfl).bind fun loaded => ?_
  split
  · refine Ends.pure ⟨rfl, ?_⟩
    rintro cause ⟨⟩
    trivial
  · refine (Quiet.request fun _ => rfl).bind fun found => ?_
    split
    · refine Ends.pure ⟨rfl, ?_⟩
      rintro cause ⟨⟩
      trivial
    · refine Ends.pure ⟨rfl, ?_⟩
      rintro cause ⟨⟩

theorem finalize_ends (agent : String) (code : M) (offset : UInt64) :
    Ends essential
      (fun told result => (told = [] ∧ ∃ cause, result = .error cause) ∨
        ∃ program handle, told = [⟨.finalize program agent handle offset, result⟩])
      (finalize agent code offset : Dialogue M P (Except DriverError CodeDescriptor)) := by
  refine (Quiet.request fun _ => rfl).bind fun created => ?_
  split
  · exact Ends.pure (.inl ⟨rfl, _, rfl⟩)
  · refine (Quiet.request fun _ => rfl).bind fun added => ?_
    split
    · exact Ends.pure (.inl ⟨rfl, _, rfl⟩)
    · rename_i handle larger
      exact @Ends.request M P essential (.finalize larger agent handle offset) _ (fun _ => rfl)
        fun _ => .inr ⟨larger, handle, rfl⟩

theorem obtain_ends (agent : AgentInfo) (layout : Layout) :
    Ends essential
      (fun told result => (told = [] ∧ ∃ cause, result = .error cause ∧ cause.BeforeDispatch) ∨
        (∃ region block refused, told = [⟨.allocate region block, .error refused⟩] ∧
          result = .error (.kernargAllocation block.size refused)) ∨
        ∃ region block buffer, told = [⟨.allocate region block, .ok buffer⟩] ∧ result = .ok (region, buffer))
      (obtain agent layout : Dialogue M P (Except LaunchError (Nat × Buffer))) := by
  unfold Launch.obtain
  split
  · exact Ends.pure (.inl ⟨rfl, _, rfl, trivial⟩)
  · split
    · exact Ends.pure (.inl ⟨rfl, _, rfl, trivial⟩)
    · refine quiet_clock.bind fun started => ?_
      refine Ends.ask (fun _ => rfl) fun allocated => ?_
      split
      · exact Ends.pure (.inr (.inl ⟨_, _, _, rfl, rfl⟩))
      · refine quiet_clock.bind fun stopped => ?_
        refine (quiet_report _).bind fun _ => ?_
        exact Ends.pure (.inr (.inr ⟨_, _, _, rfl, rfl⟩))

/-- Giving up a buffer frees it once, and no more than a report follows. -/
theorem abandon_ends (agent : AgentInfo) (region : Nat) (buffer : Buffer) :
    Ends essential (fun told _ => ∃ reply, told = [⟨.free region buffer, reply⟩])
      (abandon agent region buffer : Dialogue M P Unit) := by
  refine Ends.ask (fun _ => rfl) fun freed => ?_
  split
  · exact Ends.pure ⟨_, rfl⟩
  · refine (quiet_report _).weaken ?_
    rintro told value rfl
    exact ⟨_, rfl⟩

/-- A submitted buffer is freed once, whatever became of the submission, and the two answers decide
how the launch ends. -/
theorem submit_ends (order : LaunchOrder) (region : Nat) (submission : Submission) :
    Ends essential
      (fun told outcome => ∃ submitted released,
        told = [⟨.dispatch submission, submitted⟩, ⟨.free region submission.kernargs, released⟩] ∧
          outcome = verdict order submitted released)
      (submit order region submission : Dialogue M P Outcome) := by
  refine quiet_clock.bind fun started => ?_
  refine Ends.ask (fun _ => rfl) fun submitted => ?_
  refine Ends.ask (fun _ => rfl) fun released => ?_
  split
  · exact Ends.pure ⟨_, _, rfl, rfl⟩
  · exact (quiet_report _).bind fun _ => Ends.pure ⟨_, _, rfl, rfl⟩
  · exact Ends.pure ⟨_, _, rfl, rfl⟩
  · refine quiet_clock.bind fun stopped => ?_
    exact (quiet_report _).bind fun _ => Ends.pure ⟨_, _, rfl, rfl⟩

theorem writeSlots_beforeDispatch {layout : Layout} {index : Nat} {bytes after : Bytes}
    {slots : List Slot} {cause : LaunchError}
    (failed : writeSlots layout index bytes slots = (after, .error cause)) : cause.BeforeDispatch := by
  induction slots generalizing index bytes with
  | nil => simp only [writeSlots, Prod.mk.injEq, reduceCtorEq, and_false] at failed
  | cons slot slots ih =>
    simp only [writeSlots] at failed
    split at failed
    · cases failed
      trivial
    · exact ih failed

/-- Marshaling and filling fail for causes of their own, never for those of a queue or a release. -/
theorem prepare_beforeDispatch {order : LaunchOrder} {layout : Layout} {bytes after : Bytes}
    {cause : LaunchError} (failed : prepare order layout bytes = (after, .error cause)) :
    cause.BeforeDispatch := by
  unfold prepare at failed
  split at failed
  · cases failed
    trivial
  · unfold fill at failed
    split at failed
    · rename_i unfilled
      split at unfilled
      · cases unfilled
        cases failed
        trivial
      · cases failed
        exact writeSlots_beforeDispatch unfilled
    · cases failed

theorem prepare_eq_ok {order : LaunchOrder} {layout : Layout} {bytes after : Bytes} {slots : List Slot}
    (prepared : prepare order layout bytes = (after, .ok slots)) :
    marshalAll order.homes order.arguments order.handle.types = .ok slots ∧
      fill layout bytes slots = (after, .ok ()) := by
  unfold prepare at prepared
  split at prepared
  · cases prepared
  · rename_i converted marshaled
    split at prepared
    · cases prepared
    · rename_i filled
      cases prepared
      exact ⟨marshaled, filled⟩

theorem useBuffer_ends (order : LaunchOrder) (agent : AgentInfo) (code : CodeDescriptor)
    (layout : Layout) (region : Nat) (buffer : Buffer) :
    Ends essential
      (fun told outcome =>
        (∃ bytes cause reply, prepare order layout buffer.bytes = (bytes, .error cause) ∧
          told = [⟨.free region { buffer with bytes }, reply⟩] ∧ outcome = refuse cause) ∨
        ∃ bytes slots submission submitted released,
          prepare order layout buffer.bytes = (bytes, .ok slots) ∧
          submission.kernargs = { buffer with bytes } ∧
          told = [⟨.dispatch submission, submitted⟩, ⟨.free region submission.kernargs, released⟩] ∧
          outcome = verdict order submitted released)
      (useBuffer order agent code layout region buffer : Dialogue M P Outcome) := by
  unfold useBuffer
  split
  · rename_i index cause refused
    refine (quiet_report _).bind fun _ => ?_
    refine Ends.bind (abandon_ends agent region buffer) ?_
    rintro told _ ⟨reply, rfl⟩
    refine Ends.pure (.inl ⟨buffer.bytes, .argument index cause, reply, ?_, rfl, rfl⟩)
    simp only [prepare, refused]
  · rename_i slots converted
    split
    · rename_i bytes cause unfilled
      refine Ends.bind (abandon_ends agent region _) ?_
      rintro told _ ⟨reply, rfl⟩
      refine Ends.pure (.inl ⟨bytes, cause, reply, ?_, rfl, rfl⟩)
      simp only [prepare, converted, unfilled]
    · rename_i bytes filled
      refine (submit_ends order region _).weaken ?_
      rintro told outcome ⟨submitted, released, rfl, rfl⟩
      refine .inr ⟨bytes, slots, _, submitted, released, ?_, rfl, rfl, rfl⟩
      simp only [prepare, converted, filled]

theorem quiet_reports (events : List Event) :
    Quiet essential (events.forM report : Dialogue M P Unit) := by
  induction events with
  | nil => exact Ends.pure rfl
  | cons event events ih => exact (quiet_report event).bind fun _ => ih

theorem timed_ends {α : Type} {post : List (Exchange M P) → α → Prop} (span : TimedSpan)
    {dialogue : Dialogue M P α} (ends : Ends essential post dialogue) :
    Ends essential post (timed span dialogue) := by
  refine quiet_clock.bind fun started => ?_
  refine Ends.bind ends fun told value holds => ?_
  refine quiet_clock.bind fun stopped => ?_
  refine (quiet_reports _).bind fun _ => Ends.pure ?_
  rw [List.append_nil]
  exact holds

theorem bindAndSubmit_ends (order : LaunchOrder)
    (arity : order.arguments.length = order.handle.types.length) :
    Ends essential (Lifecycle order) (bindAndSubmit order : Dialogue M P Outcome) := by
  refine Ends.bind (resolve_ends order) ?_
  rintro told resolved ⟨rfl, early⟩
  split
  · exact Ends.pure (.unlent .nothing (early _ rfl))
  · rename_i code offset
    refine (Quiet.request fun _ => rfl).bind fun agent => ?_
    refine Ends.bind (finalize_ends agent.name code offset) ?_
    rintro told finalized (⟨rfl, cause, rfl⟩ | ⟨program, handle, rfl⟩)
    · exact Ends.pure (.unlent .nothing trivial)
    · split
      · exact Ends.pure (.unlent .finalizationFailed trivial)
      · rename_i code
        have opened : Exchange.Finalized
            (⟨.finalize program agent.name handle offset, .ok code⟩ : Exchange M P) :=
          ⟨program, agent.name, handle, offset, code, rfl⟩
        split
        · exact Ends.pure (.unlent (.finalized opened) trivial)
        · rename_i layout laid
          refine Ends.bind (obtain_ends agent layout) ?_
          rintro told obtained (⟨rfl, cause, rfl, early⟩ | ⟨region, block, cause, rfl, rfl⟩ |
            ⟨region, block, buffer, rfl, rfl⟩)
          · exact Ends.pure (.unlent (.finalized opened) early)
          · exact Ends.pure (.unlent (.allocationFailed opened) trivial)
          · refine (useBuffer_ends order agent code layout region buffer).weaken ?_
            rintro told outcome (⟨bytes, cause, reply, failed, rfl, rfl⟩ |
              ⟨bytes, slots, submission, submitted, released, prepared, handed, rfl, rfl⟩)
            · exact .abandoned opened laid failed
            · exact .submitted opened arity laid prepared handed

/-- What is told of a launch has one of the shapes, whatever the driver answers. -/
theorem launch_lifecycle (order : LaunchOrder) :
    Ends essential (Lifecycle order) (launch order : Dialogue M P Outcome) := by
  by_cases arity : order.arguments.length = order.handle.types.length
  · simp only [KernelLaunch.launch, ne_eq, arity, not_true_eq_false, if_false]
    refine (quiet_selectQueue _).bind fun found => ?_
    split
    · exact Ends.pure (.unlent .nothing trivial)
    · split
      · exact timed_ends _ (bindAndSubmit_ends order arity)
      · exact bindAndSubmit_ends order arity
  · simp only [KernelLaunch.launch, ne_eq, arity, not_false_eq_true, if_true]
    exact Ends.pure (.unlent .nothing trivial)

end Launch
end KernelLaunch
