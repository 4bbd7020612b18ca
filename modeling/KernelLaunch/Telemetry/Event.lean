import KernelLaunch.Binary.Conversion
import KernelLaunch.Decimal.Unsigned
import KernelLaunch.Driver.Error
import KernelLaunch.Kernarg.Error

/-! The events a launch and the reference device report, each by what happened. Level, message and
fields are what a subscriber sees of them. -/

namespace KernelLaunch

inductive Level where
  | trace
  | debug
  | info
  | warn
  | error
  deriving DecidableEq

def Level.name : Level → String
  | .trace => "TRACE"
  | .debug => "DEBUG"
  | .info => "INFO"
  | .warn => "WARN"
  | .error => "ERROR"

inductive Field where
  | text (value : String)
  | number (value : Nat)
  | real (value : FloatBits .double)
  deriving DecidableEq

/-- Durations are in microseconds. -/
inductive Event where
  | kernargAllocated (size align duration : Nat)
  | kernelDispatched (symbol : String) (workItems duration : Nat)
  | spanComplete (duration : Nat)
  /-- A region was given a buffer that it did not hand out or has taken back before. -/
  | foreignFree (region : String) (buffer : Nat)
  | marshalingFailed (symbol : String) (index : Nat) (cause : MarshalError)
  /-- A launch that had already failed could not give its buffer back. -/
  | releaseFailed (region : String) (cause : DriverError)
  | releaseFailedAfterDispatch (symbol : String) (cause : DriverError)
  /-- An environment variable was set to a text that is no number. -/
  | variableIgnored (name value : String) (cause : NumberError)
  deriving DecidableEq

namespace Event

def level : Event → Level
  | .kernargAllocated .. | .kernelDispatched .. | .spanComplete .. => .debug
  | _ => .warn

def message : Event → String
  | .kernargAllocated .. => "kernarg_allocation"
  | .kernelDispatched .. => "kernel_dispatch"
  | .spanComplete .. => "performance_span_complete"
  | .foreignFree .. => "rejected free of foreign kernarg buffer"
  | .marshalingFailed .. => "argument marshaling failed"
  | .releaseFailed .. => "kernarg release failed on error path"
  | .releaseFailedAfterDispatch .. => "kernarg release failed after dispatch failure"
  | .variableIgnored name .. => s!"ignoring invalid {name}"

def fields : Event → List (String × Field)
  | .kernargAllocated size align duration =>
    [("event", .text "kernarg_allocation"), ("size_bytes", .number size),
      ("alignment", .number align), ("duration_us", .number duration)]
  | .kernelDispatched symbol workItems duration =>
    [("event", .text "dispatch"), ("symbol", .text symbol), ("work_items", .number workItems),
      ("duration_us", .number duration), ("items_per_sec", .real (itemsPerSecond workItems duration))]
  | .spanComplete duration =>
    [("duration_us", .number duration), ("duration_ms", .real (milliseconds duration))]
  | .foreignFree region buffer => [("region", .text region), ("id", .number buffer)]
  | .marshalingFailed symbol index cause =>
    [("symbol", .text symbol), ("index", .number index), ("error", .text cause.message)]
  | .releaseFailed region cause => [("region", .text region), ("error", .text cause.message)]
  | .releaseFailedAfterDispatch symbol cause =>
    [("symbol", .text symbol), ("error", .text cause.message)]
  | .variableIgnored _ value cause => [("value", .text value), ("error", .text cause.message)]

end Event
end KernelLaunch
