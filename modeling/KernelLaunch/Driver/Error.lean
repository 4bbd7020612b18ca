/-! The ways a driver refuses a call. The reasons are the driver's own words. -/

namespace KernelLaunch

inductive DriverError where
  | allocationFailed (size align : Nat) (reason : String)
  | unknownBuffer (id : Nat)
  | invalidImage (reason : String)
  | unknownModule (id : Nat)
  | finalizationFailed (reason : String)
  | dispatchFailed (reason : String)
  | other (reason : String)
  deriving DecidableEq

def DriverError.message : DriverError → String
  | .allocationFailed size align reason =>
    s!"allocation of {size} bytes (align {align}) failed: {reason}"
  | .unknownBuffer id => s!"unknown kernarg buffer: {id}"
  | .invalidImage reason => s!"invalid native image: {reason}"
  | .unknownModule id => s!"unknown module handle: {id}"
  | .finalizationFailed reason => s!"finalization failed: {reason}"
  | .dispatchFailed reason => s!"dispatch failed: {reason}"
  | .other reason => reason

end KernelLaunch
