import KernelLaunch.Host.Launch

/-! A driver for rehearsals: the reference device behind a record of the calls it gets, some of
which can be made to fail, and with buffers that can be made too short or dirty. -/

namespace KernelLaunch

structure Faults where
  loadModule : Option DriverError := none
  createProgram : Option DriverError := none
  addModule : Option DriverError := none
  finalize : Option DriverError := none
  allocate : Option DriverError := none
  free : Option DriverError := none
  dispatch : Option DriverError := none
  /-- Bytes by which a buffer is shorter than asked for. -/
  shortBy : Nat := 0
  dirt : Option UInt8 := none

inductive Call where
  | defaultQueue
  | queue (stream : StreamId)
  | loadModule (imageSize : Nat)
  | findSymbol (symbol : String)
  | createProgram (agents : List String)
  | addModule
  | finalize (agent : String) (handle : ModuleHandle) (offset : UInt64)
  | allocate (region : String) (block : Block)
  | dispatch (queue : String) (submission : Submission)
  | free (region : String) (bytes : Bytes)

structure Rehearsal where
  host : HostSession
  calls : List Call := []

namespace Rehearsal

def record (rehearsal : Rehearsal) (call : Call) : Rehearsal :=
  { rehearsal with calls := rehearsal.calls ++ [call] }

def regionName (rehearsal : Rehearsal) (region : Nat) : String :=
  (rehearsal.host.context.regions[region]?.map Region.name).getD ""

def queueName (rehearsal : Rehearsal) (stream : Option StreamId) : String :=
  ((rehearsal.host.context.queue? stream).map Queue.name).getD ""

def forward (request : Request Module Program) (rehearsal : Rehearsal) :
    request.Answer × Rehearsal :=
  let (reply, host) := HostSession.answer request rehearsal.host
  (reply, { rehearsal with host })

/-- The block that a rehearsal asks of the reference device in place of another. -/
def Faults.shortened (faults : Faults) (block : Block) : Block :=
  { block with size := block.size - faults.shortBy }

def Faults.soiled (faults : Faults) (buffer : Buffer) : Buffer :=
  match faults.dirt with
  | none => buffer
  | some byte => { buffer with bytes := buffer.bytes.map fun _ => byte }

/-- The answer to a request: the call is recorded first, then it fails or is passed on. -/
def answer (faults : Faults) : (request : Request Module Program) → Rehearsal →
    request.Answer × Rehearsal
  | .clock, rehearsal => forward .clock rehearsal
  | .report event, rehearsal => forward (.report event) rehearsal
  | .agent, rehearsal => forward .agent rehearsal
  | .defaultQueue, rehearsal => forward .defaultQueue (rehearsal.record .defaultQueue)
  | .queue stream, rehearsal => forward (.queue stream) (rehearsal.record (.queue stream))
  | .findSymbol code symbol, rehearsal =>
    forward (.findSymbol code symbol) (rehearsal.record (.findSymbol symbol))
  | .loadModule image, rehearsal =>
    let rehearsal := rehearsal.record (.loadModule image.length)
    match faults.loadModule with
    | some cause => (.error cause, rehearsal)
    | none => forward (.loadModule image) rehearsal
  | .createProgram agents, rehearsal =>
    let rehearsal := rehearsal.record (.createProgram agents)
    match faults.createProgram with
    | some cause => (.error cause, rehearsal)
    | none => forward (.createProgram agents) rehearsal
  | .addModule program code, rehearsal =>
    let rehearsal := rehearsal.record .addModule
    match faults.addModule with
    | some cause => (.error cause, rehearsal)
    | none => forward (.addModule program code) rehearsal
  | .finalize program agent handle offset, rehearsal =>
    let rehearsal := rehearsal.record (.finalize agent handle offset)
    match faults.finalize with
    | some cause => (.error cause, rehearsal)
    | none => forward (.finalize program agent handle offset) rehearsal
  | .allocate region block, rehearsal =>
    let rehearsal := rehearsal.record (.allocate (rehearsal.regionName region) block)
    match faults.allocate with
    | some cause => (.error cause, rehearsal)
    | none =>
      match forward (.allocate region (Faults.shortened faults block)) rehearsal with
      | (.error cause, after) => (.error cause, after)
      | (.ok buffer, after) => (.ok (Faults.soiled faults buffer), after)
  | .dispatch submission, rehearsal =>
    let rehearsal :=
      rehearsal.record (.dispatch (rehearsal.queueName submission.stream) submission)
    match faults.dispatch with
    | some cause => (.error cause, rehearsal)
    | none => forward (.dispatch submission) rehearsal
  | .free region buffer, rehearsal =>
    let rehearsal := rehearsal.record (.free (rehearsal.regionName region) buffer.bytes)
    match faults.free with
    | some cause => (.error cause, rehearsal)
    | none => forward (.free region buffer) rehearsal

end Rehearsal

def Context.rehearse (context : Context) (faults : Faults) (order : LaunchOrder) :
    Outcome × Rehearsal :=
  (KernelLaunch.launch order).run (Rehearsal.answer faults) { host := { context } }

end KernelLaunch
