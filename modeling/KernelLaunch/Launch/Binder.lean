import KernelLaunch.Kernel
import KernelLaunch.Launch.Dialogue
import KernelLaunch.Launch.Error
import KernelLaunch.Marshal
import KernelLaunch.Telemetry.Span

/-! One launch, from the entry symbol to the release of the arguments. Until the argument buffer is
allocated a failure leaves nothing behind; from then on every way out frees the buffer once, and
what the caller is told never depends on a failure of that release but where the launch itself had
succeeded. -/

namespace KernelLaunch

structure LaunchOrder where
  handle : KernelHandle
  configuration : Configuration
  arguments : List ArgValue
  options : Options
  /-- Where the descriptor of each array argument is kept during the launch. -/
  homes : Nat → UInt64

abbrev Outcome := Except (Fault LaunchError) Unit

namespace Launch

variable {M P : Type}

def refuse (cause : LaunchError) : Outcome := .error (.refused cause)

def symbol (order : LaunchOrder) : String := order.options.entrySymbol order.handle.entryName

def report (event : Event) : Dialogue M P Unit := Dialogue.request (.report event)

def clock : Dialogue M P Nat := Dialogue.request .clock

/-- Asks for the queue of the chosen stream; the default queue is always there. -/
def selectQueue : Option StreamId → Dialogue M P Bool
  | none => do
    Dialogue.request .defaultQueue
    return true
  | some stream => Dialogue.request (.queue stream)

/-- Loads the kernel's image and finds its entry symbol. -/
def resolve (order : LaunchOrder) : Dialogue M P (Except LaunchError (M × UInt64)) := do
  match ← Dialogue.request (.loadModule order.handle.image) with
  | .error cause => return .error (.invalidImage cause)
  | .ok code =>
    match ← Dialogue.request (.findSymbol code (symbol order)) with
    | none => return .error (.symbolNotFound (symbol order))
    | some offset => return .ok (code, offset)

/-- Builds a program of one module for one agent and finalizes the code at an offset of it. -/
def finalize (agent : String) (code : M) (offset : UInt64) :
    Dialogue M P (Except DriverError CodeDescriptor) := do
  match ← Dialogue.request (.createProgram [agent]) with
  | .error cause => return .error cause
  | .ok program =>
    match ← Dialogue.request (.addModule program code) with
    | .error cause => return .error cause
    | .ok (handle, program) => Dialogue.request (.finalize program agent handle offset)

/-- Allocates the argument buffer in the first region that takes kernel arguments, and names that
region by its place. -/
def obtain (agent : AgentInfo) (layout : Layout) :
    Dialogue M P (Except LaunchError (Nat × Buffer)) := do
  match agent.regions.findIdx? RegionInfo.kernargs with
  | none => return .error (.noKernargRegion agent.name)
  | some region =>
    match layout.block with
    | .error cause => return .error (.kernargLayout cause)
    | .ok block =>
      let started ← clock
      match ← Dialogue.request (.allocate region block) with
      | .error cause => return .error (.kernargAllocation block.size cause)
      | .ok buffer =>
        let stopped ← clock
        report (.kernargAllocated block.size block.align (stopped - started))
        return .ok (region, buffer)

/-- Writes the cells of the slots from `index` on. The bytes are those written so far also when a
slot cannot be written. -/
def writeSlots (layout : Layout) (index : Nat) (bytes : Bytes) :
    List Slot → Bytes × Except LaunchError Unit
  | [] => (bytes, .ok ())
  | slot :: slots =>
    match layout.writeSlot bytes index slot.cell with
    | .error cause => (bytes, .error (.argument index cause))
    | .ok written => writeSlots layout (index + 1) written slots

def fill (layout : Layout) (bytes : Bytes) (slots : List Slot) : Bytes × Except LaunchError Unit :=
  match layout.writeInjected bytes with
  | .error cause => (bytes, .error (.kernargLayout cause))
  | .ok cleared => writeSlots layout 0 cleared slots

/-- Frees the buffer of a launch that has failed. A failure to free it is only reported. -/
def abandon (agent : AgentInfo) (region : Nat) (buffer : Buffer) : Dialogue M P Unit := do
  match ← Dialogue.request (.free region buffer) with
  | .ok () => return
  | .error cause =>
    report (.releaseFailed ((agent.regions[region]?.map RegionInfo.name).getD "") cause)

/-- Submits a filled buffer, frees it, and says how the launch ended. -/
def submit (order : LaunchOrder) (region : Nat) (submission : Submission) :
    Dialogue M P Outcome := do
  let started ← clock
  let submitted ← Dialogue.request (.dispatch submission)
  let released ← Dialogue.request (.free region submission.kernargs)
  match submitted, released with
  | .error cause, .ok () => return refuse (.dispatch (symbol order) cause)
  | .error cause, .error lost =>
    report (.releaseFailedAfterDispatch (symbol order) lost)
    return refuse (.dispatch (symbol order) cause)
  | .ok (), .error cause => return refuse (.release cause)
  | .ok (), .ok () =>
    let stopped ← clock
    let items := order.configuration.geometry.workItems
    report (.kernelDispatched (symbol order) items (stopped - started))
    return .ok ()

/-- All that happens to an allocated buffer: the arguments are converted and written to it, it is
submitted, and it is freed. -/
def useBuffer (order : LaunchOrder) (agent : AgentInfo) (code : CodeDescriptor) (layout : Layout)
    (region : Nat) (buffer : Buffer) : Dialogue M P Outcome := do
  match marshalAll order.homes order.arguments order.handle.types with
  | .error (index, cause) =>
    report (.marshalingFailed (symbol order) index cause)
    abandon agent region buffer
    return refuse (.argument index cause)
  | .ok slots =>
    match fill layout buffer.bytes slots with
    | (bytes, .error cause) =>
      abandon agent region { buffer with bytes }
      return refuse cause
    | (bytes, .ok ()) =>
      submit order region
        { stream := order.configuration.stream
          code
          kernargs := { buffer with bytes }
          workgroup := order.configuration.geometry.workgroup
          grid := order.configuration.geometry.global
          descriptors := slots.filterMap Slot.descriptor? }

def bindAndSubmit (order : LaunchOrder) : Dialogue M P Outcome := do
  match ← resolve order with
  | .error cause => return refuse cause
  | .ok (code, offset) =>
    let agent ← Dialogue.request .agent
    match ← finalize agent.name code offset with
    | .error cause => return refuse (.finalization (symbol order) cause)
    | .ok code =>
      match Layout.ofSignature order.options.abi order.handle.types with
      | .error overflow => return .error (.overflow overflow)
      | .ok layout =>
        match ← obtain agent layout with
        | .error cause => return refuse cause
        | .ok (region, buffer) => useBuffer order agent code layout region buffer

/-- Reports the time of a dialogue when it ends, however it ends. -/
def timed {α : Type} (span : TimedSpan) (dialogue : Dialogue M P α) : Dialogue M P α := do
  let started ← clock
  let value ← dialogue
  let stopped ← clock
  (span.closing (stopped - started)).forM report
  return value

def span (order : LaunchOrder) : TimedSpan :=
  .withFields "kernel_launch"
    [("symbol", .text (symbol order)), ("nargs", .number order.arguments.length)]
    order.options.threshold

end Launch

/-- Launches a kernel. The number of arguments and the stream are checked before anything is
loaded. -/
def launch {M P : Type} (order : LaunchOrder) : Dialogue M P Outcome := do
  let expected := order.handle.types.length
  if order.arguments.length ≠ expected then
    return Launch.refuse (.arityMismatch (Launch.symbol order) expected order.arguments.length)
  else
    let found ← Launch.selectQueue order.configuration.stream
    match order.configuration.stream, found with
    | some stream, false => return Launch.refuse (.unknownStream stream)
    | _, _ =>
      if order.options.timed then Launch.timed (Launch.span order) (Launch.bindAndSubmit order)
      else Launch.bindAndSubmit order

end KernelLaunch
