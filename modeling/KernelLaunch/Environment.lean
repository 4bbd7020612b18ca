import KernelLaunch.Bytes
import KernelLaunch.Telemetry.Event

/-! The environment of a process. A variable holds bytes; one that is not text counts as unset. -/

namespace KernelLaunch

structure Environment where
  value? : String → Option Bytes

namespace Environment

def ofList (settings : List (String × Bytes)) : Environment where
  value? name := settings.lookup name

def text? (environment : Environment) (name : String) : Option String :=
  (environment.value? name).bind Bytes.toText?

/-- A word between white space. A text that is no such word is reported and ignored. -/
def word? (environment : Environment) (name : String) : Option Nat × List Event :=
  match environment.text? name with
  | none => (none, [])
  | some text =>
    match readTrimmedWord text with
    | .ok number => (some number, [])
    | .error cause => (none, [.variableIgnored name text cause])

end Environment
end KernelLaunch
