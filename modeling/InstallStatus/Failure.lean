import InstallStatus.Json.Decoder
import InstallStatus.Text.Address
import InstallStatus.Time.Span

/-!
What can go wrong while an installation is projected, the text of each failure, and when it is worth
trying again soon: what an attempt asks for once it is over.
-/

namespace InstallStatus

structure ApiError where
  status : String
  code : UInt16
  message : String
  reason : String
  deriving DecidableEq, Repr

namespace ApiError

/-- The parts of the error between braces. -/
def details (e : ApiError) : String :=
  "ErrorResponse \x7b status: " ++ Text.quote e.status ++ ", message: " ++ Text.quote e.message ++
    ", reason: " ++ Text.quote e.reason ++ ", code: " ++ toString e.code.toNat ++ " \x7d"

def text (e : ApiError) : String :=
  "ApiError: " ++ e.message ++ ": " ++ e.reason ++ " (" ++ e.details ++ ")"

end ApiError

inductive RequestFault
  | emptyName
  | longFieldManager
  | address (fault : Text.AddressFault)
  deriving DecidableEq, Repr

namespace RequestFault

def text : RequestFault → String
  | .emptyName => "failed to validate request: A non-empty name is required"
  | .longFieldManager =>
    "failed to validate request: Failed to validate PatchParams::field_manager!"
  | .address fault => "failed to build request: " ++ fault.message

end RequestFault

inductive ClientError
  | api (error : ApiError)
  /-- The server answered, but not with the object that was asked for. -/
  | unreadable
  | request (fault : RequestFault)
  | stream
  deriving DecidableEq, Repr

namespace ClientError

/-- The text of an error; that of an unreadable answer is left to whoever read it. -/
def text? : ClientError → Option String
  | .api error => some error.text
  | .unreadable => none
  | .request fault => some ("Failed to build request: " ++ fault.text)
  | .stream => some "Error finding newline character"

end ClientError

/-- What is to follow an attempt: none before something changes, or another one after a while. -/
inductive Action
  | awaitChange
  | requeue (delay : Span)
  deriving DecidableEq

inductive Failure
  | client (error : ClientError)
  | serialization (message : String) (kind : Option String)
  | missingNamespace (kind name : String)
  | timeout (resource : String) (elapsed : Span)
  | internal (message context : String)
  deriving DecidableEq

namespace Failure

/-- The context of an internal failure about which no more is known. -/
def unknownContext : String := "unknown"

def message? : Failure → Option String
  | .client error => error.text?.map fun text => "kubernetes error: " ++ text
  | .serialization message _ => some ("serialization error: " ++ message)
  | .missingNamespace kind name => some (kind ++ " " ++ name ++ " has no namespace")
  | .timeout resource elapsed =>
    some ("reconciliation of " ++ resource ++ " timed out after " ++ elapsed.text)
  | .internal message context => some ("internal error [" ++ context ++ "]: " ++ message)

/-- Whether the same attempt may succeed a little later. A refusal of the server in the 400s needs a
change elsewhere first, unless it is a conflict (409) or a limit of rate (429); so do a value that
cannot be serialized and a missing namespace. -/
def isRetryable : Failure → Bool
  | .client (.api error) =>
    error.code == 409 || error.code == 429 || !(400 ≤ error.code && error.code < 500)
  | .client _ => true
  | .serialization _ _ => false
  | .missingNamespace _ _ => false
  | .timeout _ _ => true
  | .internal _ _ => true

/-- Whether the object was changed by someone else in the meantime. -/
def isConflict : Failure → Bool
  | .client (.api error) => error.code == 409
  | _ => false

def context? : Failure → Option String
  | .internal _ context => some context
  | _ => none

/-- A value of an input that does not decode. -/
def ofDecodeError (error : DecodeError) : Failure := .serialization error.message none

/-- How many times longer to wait where a retry is not worth while soon. -/
def slowFactor : Nat := 12

/-- How long to wait after a failure: the configured delay, or twelve times that. There is none when
the product is too long to be a length of time. -/
def retryDelay? (failure : Failure) (delay : Span) : Option Span :=
  if failure.isRetryable then some delay else delay.scale? slowFactor

/-- What is to follow a failed attempt, if there is a delay for it. -/
def action? (failure : Failure) (delay : Span) : Option Action :=
  (failure.retryDelay? delay).map .requeue

end Failure

end InstallStatus
