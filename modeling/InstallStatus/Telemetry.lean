import InstallStatus.LogFilter
import InstallStatus.Text.Address

/-!
How a process sets up what it tells about itself: the filter of its log, and the collector to which
it exports, if it has one. Both are set up once, before anything else.
-/

namespace InstallStatus

abbrev Variables := String → Option String

/-- The name under which a process exports, and the address of the collector. -/
structure Telemetry where
  serviceName : String
  endpoint : Option String
  deriving DecidableEq, Repr

namespace Telemetry

def endpointVariable : String := "OTEL_EXPORTER_OTLP_ENDPOINT"

def compressionVariable : String := "OTEL_EXPORTER_OTLP_COMPRESSION"

def filterVariable : String := "RUST_LOG"

/-- What is exported to a collector, in the order in which it is set up. -/
inductive Signal
  | metrics
  | traces
  deriving DecidableEq, Repr

namespace Signal

def all : List Signal := [.metrics, .traces]

/-- The variable of the collector for this signal alone. -/
def endpointVariable : Signal → String
  | .metrics => "OTEL_EXPORTER_OTLP_METRICS_ENDPOINT"
  | .traces => "OTEL_EXPORTER_OTLP_TRACES_ENDPOINT"

def compressionVariable : Signal → String
  | .metrics => "OTEL_EXPORTER_OTLP_METRICS_COMPRESSION"
  | .traces => "OTEL_EXPORTER_OTLP_TRACES_COMPRESSION"

end Signal

/-- The telemetry that the environment asks for. -/
def ofVariables (vars : Variables) : Telemetry where
  serviceName := "siteconfig-operator"
  endpoint := vars endpointVariable

inductive SetupError
  | exporter (signal : Signal)
  | alreadySet
  deriving DecidableEq, Repr

/-- The text of an error, where it is the program's own. -/
def SetupError.message? : SetupError → Option String
  | .exporter _ => none
  | .alreadySet =>
    some ("failed to initialize tracing subscriber: " ++
      "a global default trace dispatcher has already been set")

/-- The collector of a signal: its own, or the one of the environment, or else the one given. -/
def collector (vars : Variables) (endpoint : String) (signal : Signal) : String :=
  (vars signal.endpointVariable <|> vars endpointVariable).getD endpoint

/-- Whether a signal is to be compressed. No way to compress is built in. -/
def isCompressed (vars : Variables) (signal : Signal) : Bool :=
  (vars signal.compressionVariable).isSome || (vars compressionVariable).isSome

/-- Whether a signal can be exported: uncompressed, and to an address. -/
def canExport (vars : Variables) (endpoint : String) (signal : Signal) : Bool :=
  !isCompressed vars signal && (Text.Address.read (collector vars endpoint signal)).isOk

/-- Sets up telemetry in a process that writes its log by `current`, if it has begun to. What is
exported is set up first; the filter is the one asked for by its variable. -/
def setUp (telemetry : Telemetry) (vars : Variables) (current : Option LogFilter) :
    Except SetupError LogFilter :=
  let failing := telemetry.endpoint.bind fun endpoint =>
    Signal.all.find? fun signal => !canExport vars endpoint signal
  match failing, current with
  | some signal, _ => .error (.exporter signal)
  | none, some _ => .error .alreadySet
  | none, none => .ok (LogFilter.choose (vars filterVariable))

/-- The variables that setting up telemetry looks at. -/
def variableNames : List String :=
  [endpointVariable, compressionVariable, filterVariable] ++
    Signal.all.map Signal.endpointVariable ++ Signal.all.map Signal.compressionVariable

end Telemetry

end InstallStatus
