import KernelLaunch.Kernarg.Layout
import KernelLaunch.Telemetry.Settings

/-! What a launch depends on besides its kernel and its configuration, with the environment's
changes to it. -/

namespace KernelLaunch

/-- The reserved slots that the environment asks for, if it does, and the others as they are. -/
def Abi.fromEnvironment (environment : Environment) : Abi × List Event :=
  let (injected, events) := environment.word? "HSA_LAUNCH_INJECTED_ARGS"
  match injected with
  | some injected => ({ injected }, events)
  | none => ({}, events)

structure Options where
  abi : Abi := {}
  /-- What stands before a kernel's name in the symbols of an image. -/
  linkageMarker : String := "&"
  timed : Bool := true
  /-- The least time worth reporting, in microseconds. -/
  threshold : Option Nat := none
  deriving DecidableEq

namespace Options

def fromEnvironment (environment : Environment) : Options × List Event :=
  let (abi, first) := Abi.fromEnvironment environment
  let (threshold, second) := environment.word? "HSA_LAUNCH_PERF_THRESHOLD_US"
  ({ abi, threshold
     linkageMarker := (environment.text? "HSA_LAUNCH_SYMBOL_PREFIX").getD "&" },
    first ++ second)

/-- Takes over whether and from which time on launches are reported. -/
def withTelemetry (options : Options) (settings : TelemetrySettings) : Options :=
  { options with timed := settings.timeLaunches, threshold := settings.threshold }

def entrySymbol (options : Options) (name : String) : String := options.linkageMarker ++ name

end Options
end KernelLaunch
