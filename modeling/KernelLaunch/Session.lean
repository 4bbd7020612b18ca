import KernelLaunch.Host.Launch

/-! A client of the reference device: it keeps all it is handed, numbered from zero in the order it
got it, and takes one step after another. What can happen to a device in any order of calls is what
happens in a session. -/

namespace KernelLaunch

/-- The order to launch a kernel as it is configured. -/
def Kernel.order (kernel : Kernel) (arguments : List ArgValue) (homes : Nat → UInt64) : LaunchOrder where
  handle := kernel.handle.value
  configuration := kernel.configuration
  arguments
  options := kernel.options
  homes

structure Session where
  context : Context
  modules : List Module := []
  programs : List Program := []
  codes : List CodeDescriptor := []
  /-- Every buffer the client was handed, also after it was given back. -/
  buffers : List Buffer := []
  kernels : List Kernel := []
  /-- Compiled kernels so far, which tells the next one from all before it. -/
  handles : Nat := 0

namespace Session

/-- The code of a dispatch: one the client was handed, or one it makes up. -/
inductive CodeChoice where
  | known (code : Nat)
  | given (code : CodeDescriptor)

/-- How a client changes the handle of a buffer before giving it back. -/
structure Forgery where
  id : Option Nat := none
  size : Option Nat := none
  align : Option Nat := none

def Forgery.apply (forgery : Forgery) (buffer : Buffer) : Buffer :=
  { buffer with
    id := forgery.id.getD buffer.id
    block := ⟨forgery.size.getD buffer.block.size, forgery.align.getD buffer.block.align⟩ }

inductive Step where
  | addStream (name : String)
  | queueName (queue : Option StreamId)
  | listRegions
  | load (image : Bytes)
  | loadForeign
  | find (code : Nat) (symbol : String)
  | hasCode (code : Nat) (offset : UInt64)
  | createProgram (agents : List String)
  | addModule (program code : Nat)
  | finalize (program : Nat) (handle : ModuleHandle) (offset : UInt64) (agent : String)
  | failFinalization (reason : String)
  | allocate (region : String) (block : Block)
  | write (buffer offset : Nat) (bytes : Bytes)
  | free (region : String) (buffer : Nat) (forgery : Forgery)
  | dispatch (queue : Option StreamId) (buffer : Nat) (grid : Dims) (workgroup : Option Dims)
    (code : CodeChoice)
  | failDispatches (queue : Option StreamId) (reason : String)
  | clearFailure (queue : Option StreamId)
  | records (queue : Option StreamId)
  | clearRecords (queue : Option StreamId)
  | freed (region : String)
  | clearFreed (region : String)
  | compile (handle : KernelHandle)
  | share (kernel : Nat)
  | configure (kernel : Nat) (global : Dims) (workgroup : Option Dims) (stream : Option StreamId)
  | grid (kernel : Nat) (grid block : Dims) (stream : Option StreamId)
  | withOptions (kernel : Nat) (options : Options)
  | withConfigurationOf (kernel source : Nat)
  | show (kernel : Nat)
  | launch (kernel : Nat) (arguments : List ArgValue) (homes : Nat → UInt64)

inductive Missing where
  | region
  | queue
  | module
  | program
  | code
  | buffer
  | kernel
  /-- The kernel whose compiled kernel was to be shared. -/
  | sharer
  /-- The kernel whose configuration was to be taken over. -/
  | source
  deriving DecidableEq

/-- A kernel, with the kernels that hold the same compiled kernel and those that hold an equal
one. -/
structure KernelView where
  kernel : Kernel
  sharing : List Nat
  equal : List Nat

inductive Reply where
  | done
  | missing (what : Missing)
  | refused (cause : DriverError)
  | malformed (cause : GeometryError)
  | outcome (outcome : Outcome)
  | number (number : Nat)
  | text (text : Option String)
  | offset (offset : Option UInt64)
  | flag (flag : Option Bool)
  | regions (agent : AgentInfo) (kernargs : Option Region)
  | code (number : Nat) (code : CodeDescriptor)
  | buffer (number : Nat) (buffer : Buffer)
  | bytes (bytes : Bytes)
  | records (records : List DispatchRecord)
  | freed (buffers : List FreedBuffer)
  | kernel (view : KernelView)

abbrev Result := Reply × Session × List Event

def placesOf {α : Type} (items : List α) (property : α → Bool) : List Nat :=
  (items.zipIdx.filter fun item => property item.1).map Prod.snd

def view (session : Session) (kernel : Kernel) : KernelView where
  kernel
  sharing := placesOf session.kernels fun other => other.handle.identity == kernel.handle.identity
  equal := placesOf session.kernels fun other => decide (other.handle.value = kernel.handle.value)

def keepKernel (session : Session) (kernel : Kernel) : Result :=
  let after := { session with kernels := session.kernels ++ [kernel] }
  (.kernel (after.view kernel), after, [])

/-- Does something with the item at a place, or says what is missing there. -/
def withItem {α : Type} (session : Session) (items : List α) (place : Nat) (what : Missing)
    (act : α → Result) : Result :=
  match items[place]? with
  | none => (.missing what, session, [])
  | some item => act item

def withRegion (session : Session) (name : String) (act : Nat → Region → Result) : Result :=
  match session.context.regionIndex? name with
  | none => (.missing .region, session, [])
  | some index =>
    match session.context.regions[index]? with
    | none => (.missing .region, session, [])
    | some region => act index region

def withQueue (session : Session) (queue : Option StreamId) (act : Queue → Result) : Result :=
  match session.context.queue? queue with
  | none => (.missing .queue, session, [])
  | some found => act found

def changeQueue (session : Session) (queue : Option StreamId) (change : Queue → Queue) : Result :=
  session.withQueue queue fun _ =>
    (.done, { session with context := session.context.updateQueue queue change }, [])

def derive (session : Session) (kernel : Nat) (change : Kernel → Except GeometryError Kernel) :
    Result :=
  session.withItem session.kernels kernel .kernel fun kernel =>
    match change kernel with
    | .error cause => (.malformed cause, session, [])
    | .ok derived => session.keepKernel derived

def submit (session : Session) (queue : Option StreamId) (buffer : Buffer) (grid : Dims)
    (workgroup : Option Dims) (code : CodeDescriptor) : Result :=
  match session.context.dispatch queue code buffer workgroup grid with
  | (.error cause, _) => (.refused cause, session, [])
  | (.ok (), context) => (.done, { session with context }, [])

def step (session : Session) : Step → Result
  | .addStream name =>
    let (stream, context) := session.context.addStream name
    (.number stream.number, { session with context }, [])
  | .queueName queue => (.text ((session.context.queue? queue).map Queue.name), session, [])
  | .listRegions =>
    (.regions session.context.agentInfo session.context.kernargRegion?, session, [])
  | .load image =>
    match Context.loadModule image with
    | .error cause => (.refused cause, session, [])
    | .ok code =>
      (.number session.modules.length, { session with modules := session.modules ++ [code] }, [])
  | .loadForeign =>
    (.number session.modules.length, { session with modules := session.modules ++ [.foreign] }, [])
  | .find code symbol =>
    session.withItem session.modules code .module fun code =>
      (.offset (code.find? symbol), session, [])
  | .hasCode code offset =>
    session.withItem session.modules code .module fun code =>
      (.flag (code.hasCodeAt? offset), session, [])
  | .createProgram agents =>
    let (program, context) := session.context.createProgram agents
    (.number session.programs.length,
      { session with context, programs := session.programs ++ [program] }, [])
  | .addModule program code =>
    session.withItem session.programs program .program fun found =>
      session.withItem session.modules code .module fun code =>
        match found.addModule code with
        | .error cause => (.refused cause, session, [])
        | .ok (handle, larger) =>
          (.text handle.text,
            { session with programs := session.programs.set program larger }, [])
  | .finalize program handle offset agent =>
    session.withItem session.programs program .program fun program =>
      match session.context.finalize program agent handle offset with
      | .error cause => (.refused cause, session, [])
      | .ok (code, context) =>
        (.code session.codes.length code,
          { session with context, codes := session.codes ++ [code] }, [])
  | .failFinalization reason =>
    (.done, { session with context := session.context.failFinalization reason }, [])
  | .allocate region block =>
    session.withRegion region fun index _ =>
      match session.context.allocate index block with
      | (.error cause, _) => (.refused cause, session, [])
      | (.ok buffer, context) =>
        (.buffer session.buffers.length buffer,
          { session with context, buffers := session.buffers ++ [buffer] }, [])
  | .write buffer offset bytes =>
    session.withItem session.buffers buffer .buffer fun found =>
      let written := found.write offset bytes
      (.bytes written.bytes, { session with buffers := session.buffers.set buffer written }, [])
  | .free region buffer forgery =>
    session.withRegion region fun index _ =>
      session.withItem session.buffers buffer .buffer fun buffer =>
        let (result, context, events) := session.context.free index (forgery.apply buffer)
        let reply :=
          match result with
          | .ok () => .done
          | .error cause => .refused cause
        (reply, { session with context }, events)
  | .dispatch queue buffer grid workgroup code =>
    session.withQueue queue fun _ =>
      session.withItem session.buffers buffer .buffer fun buffer =>
        match code with
        | .given code => session.submit queue buffer grid workgroup code
        | .known code =>
          session.withItem session.codes code .code fun code =>
            session.submit queue buffer grid workgroup code
  | .failDispatches queue reason => session.changeQueue queue fun found => found.failDispatches reason
  | .clearFailure queue => session.changeQueue queue Queue.clearFailure
  | .records queue => session.withQueue queue fun found => (.records found.records, session, [])
  | .clearRecords queue => session.changeQueue queue Queue.clearRecords
  | .freed region => session.withRegion region fun _ found => (.freed found.freed, session, [])
  | .clearFreed region =>
    session.withRegion region fun index found =>
      (.done, { session with context := session.context.setRegion index found.clearFreed }, [])
  | .compile handle =>
    { session with handles := session.handles + 1 }.keepKernel ⟨⟨session.handles, handle⟩, {}, {}⟩
  | .share kernel =>
    session.withItem session.kernels kernel .sharer fun kernel =>
      session.keepKernel ⟨kernel.handle, {}, {}⟩
  | .configure kernel global workgroup stream =>
    session.derive kernel fun kernel => kernel.configure global workgroup stream
  | .grid kernel grid block stream =>
    session.derive kernel fun kernel => kernel.grid grid block stream
  | .withOptions kernel options => session.derive kernel fun kernel => .ok (kernel.withOptions options)
  | .withConfigurationOf kernel source =>
    session.withItem session.kernels kernel .kernel fun kernel =>
      session.withItem session.kernels source .source fun source =>
        session.keepKernel (kernel.withConfiguration source.configuration)
  | .show kernel =>
    session.withItem session.kernels kernel .kernel fun kernel =>
      (.kernel (session.view kernel), session, [])
  | .launch kernel arguments homes =>
    session.withItem session.kernels kernel .kernel fun kernel =>
      let (outcome, context, events) := session.context.launch (kernel.order arguments homes)
      (.outcome outcome, { session with context }, events)

def after (session : Session) (steps : List Step) : Session :=
  steps.foldl (fun session step => (session.step step).2.1) session

end Session
end KernelLaunch
