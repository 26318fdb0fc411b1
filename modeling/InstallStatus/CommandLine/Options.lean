import InstallStatus.Settings.Basic
import InstallStatus.Text.Styled

/-!
The options of the controller on a command line. Arguments are taken from left to right. An option is
finished only when the next one begins or the line ends, and an argument that is no option at all is
refused at once; this decides which of two mistakes is reported.
-/

namespace InstallStatus.CommandLine

inductive Opt
  | namespaceName
  | fieldManager
  | timeoutSeconds
  | requeueSeconds
  deriving DecidableEq, Repr

namespace Opt

def all : List Opt := [.namespaceName, .fieldManager, .timeoutSeconds, .requeueSeconds]

def name : Opt → String
  | .namespaceName => "namespace"
  | .fieldManager => "field-manager"
  | .timeoutSeconds => "reconcile-timeout-secs"
  | .requeueSeconds => "error-requeue-secs"

def placeholder : Opt → String
  | .namespaceName => "NAMESPACE"
  | .fieldManager => "FIELD_MANAGER"
  | .timeoutSeconds => "RECONCILE_TIMEOUT_SECS"
  | .requeueSeconds => "ERROR_REQUEUE_SECS"

def purpose : Opt → String
  | .namespaceName => "Only watch this namespace (default: all namespaces)"
  | .fieldManager => "Field manager recorded on ClusterInstance status patches"
  | .timeoutSeconds => "Deadline for a single reconciliation, in seconds"
  | .requeueSeconds => "Delay before retrying a failed reconciliation, in seconds"

/-- The option as usage shows it. -/
def usage (opt : Opt) : String := "--" ++ opt.name ++ " <" ++ opt.placeholder ++ ">"

def ofName? (name : String) : Option Opt := all.find? fun opt => opt.name == name

end Opt

inductive Misuse
  | missingValue (opt : Opt)
  | repeated (opt : Opt)
  | invalidNumber (opt : Opt) (text : String) (cause : Text.WordError)
  | unexpectedArgument (text : String)
  | unexpectedValue (value flag : String)
  | unknownCommand (text : String)
  deriving DecidableEq, Repr

namespace Misuse

def kind : Misuse → String
  | .missingValue _ => "InvalidValue"
  | .repeated _ => "ArgumentConflict"
  | .invalidNumber _ _ _ => "ValueValidation"
  | .unexpectedArgument _ => "UnknownArgument"
  | .unexpectedValue _ _ => "TooManyValues"
  | .unknownCommand _ => "InvalidSubcommand"

/-- Words between quotes, as a message shows them. -/
def quoted (text : String) (emphasis : Text.Emphasis) : Text.Styled :=
  .raw "'" ++ .ofText text emphasis ++ .raw "'"

/-- The message, in which what is refused stands out, and so does what it was meant for. -/
def message : Misuse → Text.Styled
  | .missingValue opt =>
    .raw "a value is required for " ++ quoted opt.usage .refused ++ .raw " but none was supplied"
  | .repeated opt =>
    .raw "the argument " ++ quoted opt.usage .refused ++ .raw " cannot be used multiple times"
  | .invalidNumber opt text cause =>
    .raw "invalid value " ++ quoted text .refused ++ .raw " for " ++ quoted opt.usage .literal ++
      .raw (": " ++ cause.message)
  | .unexpectedArgument text =>
    .raw "unexpected argument " ++ quoted text .refused ++ .raw " found"
  | .unexpectedValue value flag =>
    .raw "unexpected value " ++ quoted value .refused ++ .raw " for " ++ quoted flag .literal ++
      .raw " found; no more were expected"
  | .unknownCommand text => .raw "unrecognized subcommand " ++ quoted text .refused

end Misuse

/-- Why the reading of a command line stops before its end. -/
inductive Stop
  | misuse (mistake : Misuse)
  | help (long : Bool)
  deriving DecidableEq, Repr

inductive Form
  /-- Two dashes: no option follows. -/
  | divider
  | long (name : String) (value : Option String)
  /-- The characters after a single dash. -/
  | short (flags : List Char)
  | plain
  deriving DecidableEq, Repr

namespace Form

def of (arg : String) : Form :=
  match arg.toList with
  | ['-', '-'] => .divider
  | '-' :: '-' :: rest =>
    let name := String.ofList (rest.takeWhile (· != '='))
    match rest.dropWhile (· != '=') with
    | [] => .long name none
    | _ :: value => .long name (some (String.ofList value))
  | '-' :: c :: rest => .short (c :: rest)
  | _ => .plain

end Form

namespace Options

/-- What has been read: the finished options, and the one under way with its value, if it has one. -/
structure State where
  flags : Settings.Flags
  pending : Option (Opt × Option String)
  divided : Bool

def start : State := ⟨.none, none, false⟩

def isSet (flags : Settings.Flags) : Opt → Bool
  | .namespaceName => flags.namespaceName.isSome
  | .fieldManager => flags.fieldManager.isSome
  | .timeoutSeconds => flags.timeoutSeconds.isSome
  | .requeueSeconds => flags.requeueSeconds.isSome

def number (opt : Opt) (text : String) : Except Misuse UInt64 :=
  (Text.readWord text.toList).mapError (Misuse.invalidNumber opt text)

def set (flags : Settings.Flags) (opt : Opt) (value : String) : Except Misuse Settings.Flags :=
  if isSet flags opt then .error (.repeated opt)
  else
    match opt with
    | .namespaceName => .ok { flags with namespaceName := some value }
    | .fieldManager => .ok { flags with fieldManager := some value }
    | .timeoutSeconds =>
      (number opt value).map fun n => { flags with timeoutSeconds := some n }
    | .requeueSeconds =>
      (number opt value).map fun n => { flags with requeueSeconds := some n }

def settle (state : State) : Except Misuse State :=
  match state.pending with
  | none => .ok state
  | some (opt, none) => .error (.missingValue opt)
  | some (opt, some value) =>
    (set state.flags opt value).map fun flags => { state with flags, pending := none }

def longStep (state : State) (name : String) (value : Option String) : Except Stop State :=
  match Opt.ofName? name, value with
  | some opt, some value => do
    let state ← (settle state).mapError Stop.misuse
    let flags ← (set state.flags opt value).mapError Stop.misuse
    return { state with flags }
  | some opt, none => do
    let state ← (settle state).mapError Stop.misuse
    return { state with pending := some (opt, none) }
  | none, value =>
    if name = "help" then
      match value with
      | some value => .error (.misuse (.unexpectedValue value "--help"))
      | none => do
        let _ ← (settle state).mapError Stop.misuse
        .error (.help true)
    else .error (.misuse (.unexpectedArgument ("--" ++ name)))

/-- Of the single-letter flags only the one for help is known. -/
def shortStep (state : State) (flags : List Char) : Except Stop State :=
  match flags with
  | 'h' :: _ => do
    let _ ← (settle state).mapError Stop.misuse
    .error (.help false)
  | c :: _ => .error (.misuse (.unexpectedArgument (String.ofList ['-', c])))
  | [] => .ok state

def step (state : State) (arg : String) : Except Stop State :=
  let unexpected : Except Stop State := .error (.misuse (.unexpectedArgument arg))
  if state.divided then unexpected
  else
    match Form.of arg with
    | .divider => .ok { state with divided := true }
    | .long name value => longStep state name value
    | .short flags => shortStep state flags
    | .plain =>
      match state.pending with
      | some (opt, none) => .ok { state with pending := some (opt, some arg) }
      | _ => unexpected

def read (args : List String) : Except Stop Settings.Flags := do
  let state ← args.foldlM step start
  let state ← (settle state).mapError Stop.misuse
  return state.flags

end Options

end InstallStatus.CommandLine
