import KernelLaunch.Driver.Error
import KernelLaunch.Driver.Handle
import KernelLaunch.Geometry
import KernelLaunch.Kernarg.Error

/-! Why a launch fails, with the refusal of the driver or of the conversion behind it. -/

namespace KernelLaunch

inductive LaunchError where
  | invalidGeometry (cause : GeometryError)
  | argument (index : Nat) (cause : MarshalError)
  | arityMismatch (symbol : String) (expected actual : Nat)
  | symbolNotFound (symbol : String)
  | invalidImage (cause : DriverError)
  | finalization (symbol : String) (cause : DriverError)
  | noKernargRegion (agent : String)
  | kernargLayout (cause : MarshalError)
  | kernargAllocation (size : Nat) (cause : DriverError)
  | unknownStream (stream : StreamId)
  | dispatch (symbol : String) (cause : DriverError)
  /-- The kernel was submitted, but its arguments could not be given back. -/
  | release (cause : DriverError)
  deriving DecidableEq

namespace LaunchError

def message : LaunchError → String
  | .invalidGeometry cause => s!"invalid launch geometry: {cause.message}"
  | .argument index cause => s!"argument {index}: {cause.message}"
  | .arityMismatch symbol expected actual =>
    s!"{symbol} takes {expected} arguments, {actual} supplied"
  | .symbolNotFound symbol => s!"symbol not found in native image: {symbol}"
  | .invalidImage cause => s!"native image rejected by driver: {cause.message}"
  | .finalization symbol cause => s!"finalization of {symbol} failed: {cause.message}"
  | .noKernargRegion agent => s!"agent {agent} has no kernarg region"
  | .kernargLayout cause => s!"kernarg layout: {cause.message}"
  | .kernargAllocation size cause => s!"kernarg allocation of {size} bytes failed: {cause.message}"
  | .unknownStream stream => s!"unknown stream: {stream.text}"
  | .dispatch symbol cause => s!"dispatch of {symbol} failed: {cause.message}"
  | .release cause => s!"kernarg release failed: {cause.message}"

def argumentIndex? : LaunchError → Option Nat
  | .argument index _ => some index
  | _ => none

end LaunchError
end KernelLaunch
