import InstallStatus.Text.Blank
import InstallStatus.Text.Quoted
import InstallStatus.Text.Word
import InstallStatus.Time.Span

/-!
The settings of the operator. Each can be given by a flag or by a variable of the environment; the
flag counts, and then the variable is not even looked at. An empty namespace flag is no flag.
-/

namespace InstallStatus

structure Settings where
  /-- The namespace to watch; none for all of them. -/
  namespaceName : Option String
  fieldManager : String
  timeout : Span
  requeue : Span
  deriving DecidableEq

namespace Settings

def standard : Settings where
  namespaceName := none
  fieldManager := "siteconfig-clusterdeployment-reconciler"
  timeout := .ofSeconds 30
  requeue := .ofSeconds 5

structure Flags where
  namespaceName : Option String
  fieldManager : Option String
  timeoutSeconds : Option UInt64
  requeueSeconds : Option UInt64
  deriving DecidableEq, Repr

def Flags.none : Flags := ⟨.none, .none, .none, .none⟩

structure Environment where
  namespaceName : Option String
  fieldManager : Option String
  timeoutSeconds : Option String
  requeueSeconds : Option String
  deriving DecidableEq, Repr

inductive Variable
  | namespaceName
  | fieldManager
  | timeoutSeconds
  | requeueSeconds
  deriving DecidableEq, Repr

def Variable.all : List Variable :=
  [.namespaceName, .fieldManager, .timeoutSeconds, .requeueSeconds]

def Variable.name : Variable → String
  | .namespaceName => "WATCH_NAMESPACE"
  | .fieldManager => "SITECONFIG_FIELD_MANAGER"
  | .timeoutSeconds => "RECONCILE_TIMEOUT_SECS"
  | .requeueSeconds => "ERROR_REQUEUE_SECS"

namespace Environment

def ofLookup (value? : Variable → Option String) : Environment where
  namespaceName := value? .namespaceName
  fieldManager := value? .fieldManager
  timeoutSeconds := value? .timeoutSeconds
  requeueSeconds := value? .requeueSeconds

/-- The environment of a process, in which a variable of white space alone counts as not set. -/
def ofProcess (value? : Variable → Option String) : Environment :=
  ofLookup fun source => (value? source).filter fun text => ¬ Text.Blank text

end Environment

inductive Rejection
  | notSeconds (source : Variable) (text : String) (cause : Text.WordError)
  | zeroTimeout
  deriving DecidableEq, Repr

namespace Rejection

/-- The message, without what caused it. -/
def headline : Rejection → String
  | .notSeconds source text _ =>
    source.name ++ " must be a whole number of seconds, got " ++ Text.quote text
  | .zeroTimeout => "reconcile timeout must be greater than zero"

/-- The message and what caused it. -/
def message (rejection : Rejection) : String :=
  match rejection with
  | .notSeconds _ _ cause => rejection.headline ++ ": " ++ cause.message
  | .zeroTimeout => rejection.headline

end Rejection

/-- The number of seconds in a variable, if it is set; white space around the number does not count. -/
def readSeconds (source : Variable) (text : Option String) : Except Rejection (Option UInt64) :=
  match text with
  | none => .ok none
  | some text =>
    match Text.readWord (Text.trim text.toList) with
    | .ok seconds => .ok (some seconds)
    | .error cause => .error (.notSeconds source text cause)

/-- A length of time from its flag, else from its variable, else the standard one. -/
def chooseSpan (flag : Option UInt64) (source : Variable) (text : Option String)
    (standard : Span) : Except Rejection Span :=
  match flag with
  | some seconds => .ok (.ofSeconds seconds)
  | none => (readSeconds source text).map fun seconds => (seconds.map Span.ofSeconds).getD standard

/-- The settings that flags and environment amount to. -/
def resolve (flags : Flags) (env : Environment) : Except Rejection Settings := do
  let timeout ← chooseSpan flags.timeoutSeconds .timeoutSeconds env.timeoutSeconds standard.timeout
  let requeue ← chooseSpan flags.requeueSeconds .requeueSeconds env.requeueSeconds standard.requeue
  if timeout.nanos = 0 then .error .zeroTimeout
  else
    return {
      namespaceName := flags.namespaceName.filter (· ≠ "") <|> env.namespaceName
      fieldManager := (flags.fieldManager <|> env.fieldManager).getD standard.fieldManager
      timeout
      requeue }

end Settings

end InstallStatus
