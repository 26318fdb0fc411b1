import InstallStatus.CommandLine.Command
import InstallStatus.Telemetry

/-!
A run of the program up to the point where it would reach for a cluster: what it prints, what it logs,
and the code it ends with. Logging is set up first, then the command line is read, then the settings
are resolved.
-/

namespace InstallStatus.CommandLine

structure Run where
  code : UInt8
  output : List String
  errors : List String
  events : List Event

/-- A run that fails before it can do its work. -/
def failing (message : String) (cause : List String) (events : List Event) : Run where
  code := 1
  output := []
  errors := ("Error: " ++ message) :: cause
  events := events

/-- The cause of a failure, set off from it. -/
def causeLines (cause : String) : List String := ["", "Caused by:", "    " ++ cause]

/-- Runs the controller, with its log behind a filter, where no cluster can be reached. -/
def runController (flags : Settings.Flags) (vars : Variables) (filter : LogFilter) : Run :=
  match Settings.resolve flags (.ofProcess fun v => vars v.name) with
  | .error rejection =>
    let cause := match rejection with
      | .notSeconds _ _ cause => causeLines cause.message
      | .zeroTimeout => []
    failing rejection.headline cause []
  | .ok settings =>
    let started := Event.operatorStarted programVersion settings.timeout.seconds
      settings.requeue.seconds
    failing "failed to create Kubernetes client" []
      ([started].filter fun event => filter.allows event.line)

def misuseLines (mistake : Misuse) : List Text.Styled := [
  .ofText "error:" .alarm ++ .raw " " ++ mistake.message,
  .empty,
  .raw "For more information, try '" ++ .literal "--help" ++ .raw "'."]

def noMarksVariable : String := "NO_COLOR"

def marksVariable : String := "CLICOLOR_FORCE"

/-- Whether a variable says something, and not only nothing. -/
def isGiven (vars : Variables) (name : String) : Bool := (vars name).any fun value => !value.isEmpty

/-- Whether help and mistakes are printed for a terminal. The output of a run is none, so this has to
be asked for. -/
def printsMarks (vars : Variables) : Bool :=
  isGiven vars marksVariable && !isGiven vars noMarksVariable

def printed (vars : Variables) (line : Text.Styled) : String :=
  if printsMarks vars then line.marked else line.plain

def run (args : List String) (vars : Variables) : Run :=
  match (Telemetry.ofVariables vars).setUp vars none with
  | .error error =>
    failing "failed to initialize telemetry" ((error.message?.map causeLines).getD []) []
  | .ok filter =>
    match Command.ofArgs args with
    | .print lines => ⟨0, lines.map (printed vars), [], []⟩
    | .refuse mistake => ⟨2, [], (misuseLines mistake).map (printed vars), []⟩
    | .run flags => runController flags vars filter

/-- The variables that a run may look at. -/
def variableNames : List String :=
  [noMarksVariable, marksVariable] ++ Telemetry.variableNames ++
    Settings.Variable.all.map Settings.Variable.name

end InstallStatus.CommandLine
