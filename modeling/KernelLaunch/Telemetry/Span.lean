import KernelLaunch.Telemetry.Event

/-! Timed spans. A span is opened, may enclose events, and when it is closed reports its duration
unless that is below its threshold. -/

namespace KernelLaunch

structure SpanShape where
  level : Level
  fields : List (String × Field)
  deriving DecidableEq

structure TimedSpan where
  name : String
  /-- What subscribers see of the span; a span they do not see still times itself. -/
  shape : Option SpanShape
  /-- The least duration to report, in microseconds; none reports every one. -/
  threshold : Option Nat
  deriving DecidableEq

def spanTitle : String := "perf"

namespace TimedSpan

def atLevel (level : Level) (name : String) (threshold : Option Nat) : TimedSpan :=
  ⟨name, some ⟨level, [("name", .text name)]⟩, threshold⟩

def withFields (name : String) (fields : List (String × Field)) (threshold : Option Nat) :
    TimedSpan :=
  ⟨name, some ⟨.debug, ("name", .text name) :: fields⟩, threshold⟩

/-- A span that no subscriber sees. -/
def hidden (name : String) (threshold : Option Nat) : TimedSpan := ⟨name, none, threshold⟩

def reports (span : TimedSpan) (elapsed : Nat) : Bool := span.threshold.all (· ≤ elapsed)

def closing (span : TimedSpan) (elapsed : Nat) : List Event :=
  if span.reports elapsed then [.spanComplete elapsed] else []

end TimedSpan

/-- What a subscriber that takes everything is shown. -/
inductive Sighting where
  | opened (shape : SpanShape)
  /-- An event, in the enclosing span by its number among the spans opened. -/
  | event (event : Event) (within : Option Nat)
  deriving DecidableEq

def TimedSpan.sightings (span : TimedSpan) (enclosed : List Event) (elapsed : Nat) : List Sighting :=
  let events := enclosed ++ span.closing elapsed
  match span.shape with
  | none => events.map fun event => .event event none
  | some shape => .opened shape :: events.map fun event => .event event (some 0)

end KernelLaunch
