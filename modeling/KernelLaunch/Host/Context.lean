import KernelLaunch.Host.Program
import KernelLaunch.Host.Queue
import KernelLaunch.Host.Region
import KernelLaunch.Telemetry.Event

/-! The reference device as a whole: one agent with its regions, a default queue and one queue per
stream, and the state that its programs share. -/

namespace KernelLaunch

structure Context where
  agent : String := "host-agent"
  regions : List Region
  defaultQueue : Queue := ⟨"default", [], none⟩
  /-- The queues of the streams numbered from one. -/
  streams : List Queue := []
  finalizer : Finalizer := .idle
  heap : Heap := .ascending

namespace Context

def kernargName : String := "kernarg"

def standard : Context where
  regions := [{ name := "global", kernargs := false }, { name := kernargName, kernargs := true }]

/-! ### Regions -/

def placements (context : Context) : List Placement :=
  context.regions.flatMap fun region => region.live.map LiveBuffer.placement

def regionIndex? (context : Context) (name : String) : Option Nat :=
  context.regions.findIdx? fun region => region.name == name

def region? (context : Context) (name : String) : Option Region :=
  context.regions.find? fun region => region.name == name

/-- The region of the usual name for kernel arguments. It is looked up by its name alone; a launch
asks what a region takes. -/
def kernargRegion? (context : Context) : Option Region := context.region? kernargName

def setRegion (context : Context) (index : Nat) (region : Region) : Context :=
  { context with regions := context.regions.set index region }

/-- Allocates from the region at an index. A refusal changes nothing. -/
def allocate (context : Context) (index : Nat) (block : Block) :
    Except DriverError Buffer × Context :=
  match context.regions[index]? with
  | none => (.error (.other "no such region"), context)
  | some region =>
    match region.allocate context.heap context.placements block with
    | .error cause => (.error cause, context)
    | .ok (buffer, after) => (.ok buffer, context.setRegion index after)

/-- Gives a buffer to the region at an index, with the events that reports. -/
def free (context : Context) (index : Nat) (buffer : Buffer) :
    Except DriverError Unit × Context × List Event :=
  match context.regions[index]? with
  | none => (.error (.other "no such region"), context, [])
  | some region =>
    match region.free buffer with
    | (.ok (), after) => (.ok (), context.setRegion index after, [])
    | (.error cause, after) =>
      (.error cause, context.setRegion index after, [.foreignFree region.name buffer.id])

def leaks (context : Context) : List (String × Nat) :=
  let all := context.regions.flatMap fun region =>
    region.live.map fun buffer => (region.name, buffer.id)
  all.mergeSort fun left right =>
    left.1 < right.1 || (left.1 == right.1 && left.2 ≤ right.2)

/-! ### Queues -/

/-- Adds a queue and names the stream that selects it. -/
def addStream (context : Context) (name : String) : StreamId × Context :=
  (⟨context.streams.length + 1⟩,
    { context with streams := context.streams ++ [{ name }] })

/-- The queue of a stream; streams are numbered from one. -/
def streamQueue? (context : Context) (stream : StreamId) : Option Queue :=
  if stream.number = 0 then none else context.streams[stream.number - 1]?

/-- The queue that a choice of stream selects, the default queue for none. -/
def queue? (context : Context) : Option StreamId → Option Queue
  | none => some context.defaultQueue
  | some stream => context.streamQueue? stream

def updateQueue (context : Context) (target : Option StreamId) (change : Queue → Queue) : Context :=
  match target with
  | none => { context with defaultQueue := change context.defaultQueue }
  | some stream =>
    if stream.number = 0 then context
    else { context with streams := context.streams.modify (stream.number - 1) change }

/-- Submits a dispatch to the queue of a choice of stream. A refusal changes nothing. -/
def dispatch (context : Context) (target : Option StreamId) (code : CodeDescriptor)
    (kernargs : Buffer) (workgroup : Option Dims) (grid : Dims) :
    Except DriverError Unit × Context :=
  match context.queue? target with
  | none => (.error (.other "no such queue"), context)
  | some queue =>
    match queue.dispatch code kernargs workgroup grid with
    | .error cause => (.error cause, context)
    | .ok after => (.ok (), context.updateQueue target fun _ => after)

def queues (context : Context) : List Queue := context.defaultQueue :: context.streams

/-! ### Programs -/

def createProgram (context : Context) (agents : List String) : Program × Context :=
  ({ agents },
    { context with
      finalizer := { context.finalizer with programs := context.finalizer.programs + 1 } })

/-- Finalizes an entry point of a program. A refusal changes nothing. -/
def finalize (context : Context) (program : Program) (agent : String) (handle : ModuleHandle)
    (offset : UInt64) : Except DriverError (CodeDescriptor × Context) :=
  match program.finalize context.finalizer agent handle offset with
  | .error cause => .error cause
  | .ok (code, finalizer) => .ok (code, { context with finalizer })

def failFinalization (context : Context) (reason : String) : Context :=
  { context with finalizer := { context.finalizer with failure := some reason } }

def loadModule (image : Bytes) : Except DriverError Module :=
  match Image.parse image with
  | .ok table => .ok (.loaded table)
  | .error fault => .error (.invalidImage fault.message)

end Context
end KernelLaunch
