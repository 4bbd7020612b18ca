import KernelLaunch.Environment

/-! How a process shows its telemetry: presets, what the environment changes of them, and the filter of
events that they ask for. -/

namespace KernelLaunch

inductive SpanEvents where
  | none
  | close
  deriving DecidableEq

inductive OutputFormat where
  | compact
  | pretty
  | json
  deriving DecidableEq

def lowerAscii (text : String) : String := String.ofList (text.toList.map Char.toLower)

def OutputFormat.ofText? (text : String) : Option OutputFormat :=
  match lowerAscii (String.ofList (trimBlank text.toList)) with
  | "compact" => some .compact
  | "pretty" => some .pretty
  | "json" => some .json
  | _ => none

/-- How directives become a filter of events. That is the business of the library that shows events, whose
verdicts are taken as they are. -/
structure FilterReader (Filter : Type) where
  /-- The filter of some directives, or why they are none. -/
  read : String → Except String Filter
  /-- The filter of those among some directives that can be read. -/
  readLoosely : String → Filter
  /-- The filter that the process asks for by itself. -/
  ambient : Option Filter

/-- Why telemetry cannot be shown, with the cause that the library gives. -/
inductive SubscriberError where
  | invalidFilter (cause : String)
  /-- As a rule the process has a subscriber already. -/
  | uninstallable (cause : String)
  deriving DecidableEq

def SubscriberError.message : SubscriberError → String
  | .invalidFilter cause => s!"invalid tracing directive: {cause}"
  | .uninstallable cause => s!"failed to install global tracing subscriber: {cause}"

structure TelemetrySettings where
  /-- Which events are shown; the default directive decides if there are none. -/
  directives : Option String := none
  defaultDirective : String := "info"
  includeTargets : Bool := true
  ansi : Bool := true
  spanEvents : SpanEvents := .none
  output : OutputFormat := .pretty
  /-- Whether launches are timed. A build with debug assertions starts from here, and that is the build
  meant throughout; one without them starts with no timing. -/
  timeLaunches : Bool := true
  /-- The least time of a launch worth showing, in microseconds. -/
  threshold : Option Nat := none
  deriving DecidableEq

namespace TelemetrySettings

/-- For a developer's terminal, in a build with debug assertions. -/
def forTerminal : TelemetrySettings := {}

/-- For unattended runs whose output is collected. -/
def unattended : TelemetrySettings := { ansi := false, output := .json, timeLaunches := false }

def measuring : TelemetrySettings where
  directives := some "hsa_launch=debug,hsa_driver=debug,hsa_kernarg=debug"
  ansi := false
  spanEvents := .close
  output := .json
  timeLaunches := true

/-- The preset of a profile name; any other name means the terminal. -/
def ofProfile (name : String) : TelemetrySettings :=
  match lowerAscii name with
  | "ci" => unattended
  | "performance" => measuring
  | _ => forTerminal

/-- Directives that are not blank replace those of the preset, as they are written. -/
def withDirectives (settings : TelemetrySettings) : Option String → TelemetrySettings
  | none => settings
  | some text =>
    if trimBlank text.toList = [] then settings else { settings with directives := some text }

/-- A known format replaces that of the preset; structured output has no colours. -/
def withFormat (settings : TelemetrySettings) (text : Option String) : TelemetrySettings :=
  match text.bind OutputFormat.ofText? with
  | none => settings
  | some format =>
    { settings with output := format, ansi := if format = .json then false else settings.ansi }

/-- A switch that is set is on for these words and off for all others. -/
def isOn (text : String) : Bool :=
  text == "1" || lowerAscii text == "true" || lowerAscii text == "yes"

def withSwitch (settings : TelemetrySettings) : Option String → TelemetrySettings
  | none => settings
  | some text => { settings with timeLaunches := isOn text }

/-- A word replaces the threshold; unlike elsewhere no white space may stand around it, and any
other text is passed over in silence. -/
def withThreshold (settings : TelemetrySettings) (text : Option String) : TelemetrySettings :=
  match text with
  | none => settings
  | some text =>
    match readWord text.toList with
    | .ok threshold => { settings with threshold := some threshold }
    | .error _ => settings

def fromEnvironment (environment : Environment) : TelemetrySettings :=
  let settings := ofProfile ((environment.text? "HSA_LAUNCH_TRACING_PROFILE").getD "local")
  let settings := settings.withDirectives (environment.text? "HSA_LAUNCH_TRACING_DIRECTIVES")
  let settings := settings.withFormat (environment.text? "HSA_LAUNCH_TRACING_FORMAT")
  let settings := settings.withSwitch (environment.text? "HSA_LAUNCH_PERF_TRACING")
  settings.withThreshold (environment.text? "HSA_LAUNCH_PERF_THRESHOLD_US")

variable {Filter : Type}

/-- The filter of the directives. Without any it is the one that the process asks for by itself, or else
that of the default directive, which cannot be refused. -/
def filter (reader : FilterReader Filter) (settings : TelemetrySettings) : Except SubscriberError Filter :=
  match settings.directives with
  | some text => (reader.read text).mapError .invalidFilter
  | none => .ok (reader.ambient.getD (reader.readLoosely settings.defaultDirective))

/-- Makes the subscriber that of the whole process, unless the process says why it takes none. -/
def install (reader : FilterReader Filter) (settings : TelemetrySettings) (refusal : Option String) :
    Except SubscriberError Unit :=
  match settings.filter reader with
  | .error cause => .error cause
  | .ok _ =>
    match refusal with
    | some cause => .error (.uninstallable cause)
    | none => .ok ()

end TelemetrySettings
end KernelLaunch
