import KernelLaunch.Proofs.LentMemory
import KernelLaunch.Proofs.Transcript
import KernelLaunch.Session

/-! What is told of the steps of a session, one after another, and what the steps of each kind leave as
it is. -/

namespace KernelLaunch

namespace Session

variable {α β : Type}

/-- What is told of each step, in the order of the steps. -/
def history (told : Session → Step → List α) (session : Session) : List Step → List α
  | [] => []
  | step :: steps => told session step ++ history told (session.step step).2.1 steps

/-- What every step keeps, with what is told of it, a whole session keeps. -/
theorem history_keeps {told : Session → Step → List α} {motive : List α → Session → Prop}
    (keeps : ∀ {log session}, motive log session →
      ∀ step, motive (log ++ told session step) (session.step step).2.1)
    {log : List α} {session : Session} (holds : motive log session) (steps : List Step) :
    motive (log ++ session.history told steps) (session.after steps) := by
  induction steps generalizing log session with
  | nil =>
    rw [history, List.append_nil]
    exact holds
  | cons step steps ih =>
    rw [history, ← List.append_assoc]
    exact ih (keeps holds step)

/-- What is told of steps alone needs no session. -/
theorem history_blind (session : Session) (told : Step → List α) (steps : List Step) :
    session.history (fun _ step => told step) steps = steps.flatMap told := by
  induction steps generalizing session with
  | nil => rfl
  | cons step steps ih => rw [history, ih, List.flatMap_cons]

/-- What the launch of a kernel exchanges with the device. -/
def exchanged (session : Session) (kernel : Nat) (arguments : List ArgValue) (homes : Nat → UInt64) :
    List (Exchange Module Program) :=
  match session.kernels[kernel]? with
  | none => []
  | some kernel =>
    (KernelLaunch.launch (kernel.order arguments homes)).exchanges HostSession.answer
      { context := session.context }

theorem context_launch (session : Session) (kernel : Nat) (arguments : List ArgValue) (homes : Nat → UInt64) :
    (session.step (.launch kernel arguments homes)).2.1.context =
      match session.kernels[kernel]? with
      | none => session.context
      | some kernel => (session.context.launch (kernel.order arguments homes)).2.1 := by
  cases found : session.kernels[kernel]? with
  | none => simp only [step, withItem, found]
  | some kernel => simp only [step, withItem, found]

/-! ### What steps leave as it is -/

section
variable (observe : Session → β) {session : Session}

theorem withItem_keeps {items : List α} {place : Nat} {what : Missing} {act : α → Result}
    (keeps : ∀ item, observe (act item).2.1 = observe session) :
    observe (session.withItem items place what act).2.1 = observe session := by
  cases found : items[place]? with
  | none => simp only [withItem, found]
  | some item => simp only [withItem, found, keeps]

theorem withQueue_keeps {target : Option StreamId} {act : Queue → Result}
    (keeps : ∀ queue, observe (act queue).2.1 = observe session) :
    observe (session.withQueue target act).2.1 = observe session := by
  cases found : session.context.queue? target with
  | none => simp only [withQueue, found]
  | some queue => simp only [withQueue, found, keeps]

theorem withRegion_keeps {name : String} {act : Nat → Region → Result}
    (keeps : ∀ index region, observe (act index region).2.1 = observe session) :
    observe (session.withRegion name act).2.1 = observe session := by
  cases placed : session.context.regionIndex? name with
  | none => simp only [withRegion, placed]
  | some index =>
    cases found : session.context.regions[index]? with
    | none => simp only [withRegion, placed, found]
    | some region => simp only [withRegion, placed, found, keeps]

theorem derive_keeps {kernel : Nat} {change : Kernel → Except GeometryError Kernel}
    (keeps : ∀ derived, observe (session.keepKernel derived).2.1 = observe session) :
    observe (session.derive kernel change).2.1 = observe session := by
  apply withItem_keeps observe
  intro found
  cases changed : change found with
  | error cause => rfl
  | ok derived => exact keeps derived

end

/-- The steps that make a program or add to one. -/
def Step.assembles : Step → Bool
  | .createProgram _ | .addModule _ _ => true
  | _ => false

/-- The steps that make a kernel. -/
def Step.makesKernel : Step → Bool
  | .compile _ | .share _ | .configure _ _ _ _ | .grid _ _ _ _ | .withOptions _ _ | .withConfigurationOf _ _ => true
  | _ => false

/-- Only two kinds of steps can be seen by who looks at nothing but programs and kernels. -/
theorem unseen_step (observe : Session → β)
    (blind : ∀ session context modules codes buffers,
      observe { session with context, modules, codes, buffers } = observe session)
    {session : Session} {step : Step}
    (assembles : step.assembles = true → ∀ session programs, observe { session with programs } = observe session)
    (makes : step.makesKernel = true →
      ∀ session kernels handles, observe { session with kernels, handles } = observe session) :
    observe (session.step step).2.1 = observe session := by
  cases step with
  | queueName | listRegions => rfl
  | addStream | loadForeign | failFinalization => exact blind session _ _ _ _
  | createProgram agents => exact (assembles rfl _ _).trans (blind session _ session.modules _ _)
  | compile handle => exact makes rfl session _ _
  | load image =>
    simp only [Session.step]
    cases Context.loadModule image with
    | error cause => rfl
    | ok code => exact blind session _ _ _ _
  | find | hasCode | «show» => exact withItem_keeps observe fun _ => rfl
  | write => exact withItem_keeps observe fun _ => blind session _ _ _ _
  | share => exact withItem_keeps observe fun _ => makes rfl session _ _
  | launch => exact withItem_keeps observe fun _ => blind session _ _ _ _
  | records => exact withQueue_keeps observe fun _ => rfl
  | failDispatches | clearFailure | clearRecords => exact withQueue_keeps observe fun _ => blind session _ _ _ _
  | freed => exact withRegion_keeps observe fun _ _ => rfl
  | clearFreed => exact withRegion_keeps observe fun _ _ => blind session _ _ _ _
  | configure | grid | withOptions => exact derive_keeps observe fun _ => makes rfl session _ _
  | withConfigurationOf =>
    exact withItem_keeps observe fun _ => withItem_keeps observe fun _ => makes rfl session _ _
  | free => exact withRegion_keeps observe fun _ _ => withItem_keeps observe fun _ => blind session _ _ _ _
  | addModule program code =>
    apply withItem_keeps observe
    intro found
    apply withItem_keeps observe
    intro code
    cases found.addModule code with
    | error cause => rfl
    | ok added => exact assembles rfl session _
  | finalize program handle offset agent =>
    apply withItem_keeps observe
    intro found
    cases session.context.finalize found agent handle offset with
    | error cause => rfl
    | ok issued => exact blind session _ _ _ _
  | allocate region block =>
    apply withRegion_keeps observe
    intro index _
    rcases session.context.allocate index block with ⟨cause | buffer, after⟩
    · rfl
    · exact blind session _ _ _ _
  | dispatch target place grid workgroup choice =>
    have submitted (buffer : Buffer) (code : CodeDescriptor) :
        observe (session.submit target buffer grid workgroup code).2.1 = observe session := by
      simp only [submit]
      rcases session.context.dispatch target code buffer workgroup grid with ⟨cause | _, after⟩
      · rfl
      · exact blind session _ _ _ _
    apply withQueue_keeps observe
    intro _
    apply withItem_keeps observe
    intro buffer
    cases choice with
    | given code => exact submitted buffer code
    | known place => exact withItem_keeps observe fun code => submitted buffer code

/-- The part of the device that a step can change. -/
inductive Part where
  | nothing
  | regions
  | queues
  | finalizer
  | everything
  deriving DecidableEq

def Part.covers (part other : Part) : Bool := part = other || part = .everything

def Step.part : Step → Part
  | .allocate _ _ | .free _ _ _ | .clearFreed _ => .regions
  | .addStream _ | .dispatch _ _ _ _ _ | .failDispatches _ _ | .clearFailure _ | .clearRecords _ => .queues
  | .createProgram _ | .finalize _ _ _ _ | .failFinalization _ => .finalizer
  | .launch _ _ _ => .everything
  | _ => .nothing

section
variable {session : Session} {step : Step}

theorem context_step (part : step.part = .nothing) :
    (session.step step).2.1.context = session.context := by
  cases step with
  | queueName | listRegions | loadForeign | compile => rfl
  | load image =>
    simp only [Session.step]
    cases Context.loadModule image <;> rfl
  | find | hasCode | write | share | «show» => exact withItem_keeps context fun _ => rfl
  | records => exact withQueue_keeps context fun _ => rfl
  | freed => exact withRegion_keeps context fun _ _ => rfl
  | configure | grid | withOptions => exact derive_keeps context fun _ => rfl
  | withConfigurationOf =>
    exact withItem_keeps context fun _ => withItem_keeps context fun _ => rfl
  | addModule =>
    apply withItem_keeps context
    intro found
    apply withItem_keeps context
    intro code
    cases found.addModule code <;> rfl
  | _ => cases part

variable (observe : Context → β)

/-- Who does not look at the regions sees no change where only these can change. -/
theorem regions_unseen (blind : ∀ context regions, observe { context with regions } = observe context)
    (part : step.part = .regions) : observe (session.step step).2.1.context = observe session.context := by
  let seen (session : Session) : β := observe session.context
  cases step with
  | allocate name block =>
    apply withRegion_keeps seen
    intro index _
    obtain ⟨regions, after⟩ := session.context.allocate_regions index block
    generalize session.context.allocate index block = allocation at after
    obtain ⟨result, changed⟩ := allocation
    cases result with
    | error cause => rfl
    | ok buffer => exact (congrArg observe after).trans (blind _ _)
  | free name place forgery =>
    apply withRegion_keeps seen
    intro index _
    apply withItem_keeps seen
    intro buffer
    obtain ⟨regions, after⟩ := session.context.free_regions index (forgery.apply buffer)
    exact (congrArg observe after).trans (blind _ _)
  | clearFreed name =>
    apply withRegion_keeps seen
    intro index _
    exact blind _ _
  | _ => cases part

theorem changeQueue_unseen
    (blind : ∀ context defaultQueue streams,
      observe { context with defaultQueue, streams } = observe context)
    (target : Option StreamId) (change : Queue → Queue) :
    observe (session.changeQueue target change).2.1.context = observe session.context := by
  apply withQueue_keeps fun session => observe session.context
  intro _
  obtain ⟨defaultQueue, streams, after⟩ := session.context.updateQueue_queues target change
  exact (congrArg observe after).trans (blind _ _ _)

theorem submit_unseen
    (blind : ∀ context defaultQueue streams,
      observe { context with defaultQueue, streams } = observe context)
    (target : Option StreamId) (buffer : Buffer) (grid : Dims) (workgroup : Option Dims)
    (code : CodeDescriptor) :
    observe (session.submit target buffer grid workgroup code).2.1.context = observe session.context := by
  obtain ⟨defaultQueue, streams, after⟩ := session.context.dispatch_queues target code buffer workgroup grid
  simp only [submit]
  generalize session.context.dispatch target code buffer workgroup grid = dispatched at after
  obtain ⟨result, changed⟩ := dispatched
  cases result with
  | error cause => rfl
  | ok => exact (congrArg observe after).trans (blind _ _ _)

/-- Who does not look at the queues sees no change where only these can change. -/
theorem queues_unseen
    (blind : ∀ context defaultQueue streams,
      observe { context with defaultQueue, streams } = observe context)
    (part : step.part = .queues) : observe (session.step step).2.1.context = observe session.context := by
  let seen (session : Session) : β := observe session.context
  cases step with
  | addStream name => exact blind _ _ _
  | dispatch target place grid workgroup choice =>
    apply withQueue_keeps seen
    intro _
    apply withItem_keeps seen
    intro buffer
    cases choice with
    | given code => exact submit_unseen observe blind target buffer grid workgroup code
    | known place => exact withItem_keeps seen fun code => submit_unseen observe blind target buffer grid workgroup code
  | failDispatches target reason => exact changeQueue_unseen observe blind target _
  | clearFailure target => exact changeQueue_unseen observe blind target _
  | clearRecords target => exact changeQueue_unseen observe blind target _
  | _ => cases part

/-- Who does not look at the finalizer sees no change where only that can change. -/
theorem finalizer_unseen
    (blind : ∀ context finalizer, observe { context with finalizer } = observe context)
    (part : step.part = .finalizer) : observe (session.step step).2.1.context = observe session.context := by
  cases step with
  | createProgram agents => exact blind _ _
  | finalize program handle offset agent =>
    apply withItem_keeps fun session => observe session.context
    intro program
    cases finalized : session.context.finalize program agent handle offset with
    | error cause => rfl
    | ok issued =>
      obtain ⟨finalizer, after⟩ := session.context.finalize_finalizer finalized
      exact (congrArg observe after).trans (blind _ _)
  | failFinalization reason => exact blind _ _
  | _ => cases part

end

end Session
end KernelLaunch
