import KernelLaunch.Host.Context
import KernelLaunch.Launch.Binder

/-! Launches on the reference device. Its clock stands still, so every duration it reports is
zero. -/

namespace KernelLaunch

structure HostSession where
  context : Context
  events : List Event := []

namespace Context

def agentInfo (context : Context) : AgentInfo where
  name := context.agent
  regions := context.regions.map fun region => ⟨region.name, region.kernargs⟩

end Context

namespace HostSession

def answer : (request : Request Module Program) → HostSession → request.Answer × HostSession
  | .clock, host => ((0 : Nat), host)
  | .report event, host => ((), { host with events := host.events ++ [event] })
  | .defaultQueue, host => ((), host)
  | .queue stream, host => ((host.context.streamQueue? stream).isSome, host)
  | .loadModule image, host => (Context.loadModule image, host)
  | .findSymbol code symbol, host => (code.find? symbol, host)
  | .agent, host => (host.context.agentInfo, host)
  | .createProgram agents, host =>
    let (program, context) := host.context.createProgram agents
    (.ok program, { host with context })
  | .addModule program code, host => (program.addModule code, host)
  | .finalize program agent handle offset, host =>
    match host.context.finalize program agent handle offset with
    | .error cause => (.error cause, host)
    | .ok (code, context) => (.ok code, { host with context })
  | .allocate region block, host =>
    let (result, context) := host.context.allocate region block
    (result, { host with context })
  | .dispatch submission, host =>
    let (result, context) :=
      host.context.dispatch submission.stream submission.code submission.kernargs
        submission.workgroup submission.grid
    (result, { host with context })
  | .free region buffer, host =>
    let (result, context, events) := host.context.free region buffer
    (result, { host with context, events := host.events ++ events })

end HostSession

namespace Context

/-- Launches a kernel on the device: how the launch ended, the device after it, and what was
reported. -/
def launch (context : Context) (order : LaunchOrder) : Outcome × Context × List Event :=
  let (outcome, host) := (KernelLaunch.launch order).run HostSession.answer { context }
  (outcome, host.context, host.events)

end Context
end KernelLaunch
