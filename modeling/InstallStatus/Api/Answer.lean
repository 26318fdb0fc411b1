import InstallStatus.Json.Parser
import InstallStatus.Pass

/-!
Answers of the server, and what a call makes of them. From 400 up an answer is an error, which its
body describes if it can be read so; any other answer must hold the object that was asked for. A
missing object is no error of a get.
-/

namespace InstallStatus.Api

structure Answer where
  status : UInt16
  body : String
  deriving DecidableEq, Repr

/-- The phrases that go with the numbers of an error. -/
def phrases : List (Nat × String) := [
  (400, "Bad Request"), (401, "Unauthorized"), (402, "Payment Required"), (403, "Forbidden"),
  (404, "Not Found"), (405, "Method Not Allowed"), (406, "Not Acceptable"),
  (407, "Proxy Authentication Required"), (408, "Request Timeout"), (409, "Conflict"),
  (410, "Gone"), (411, "Length Required"), (412, "Precondition Failed"),
  (413, "Payload Too Large"), (414, "URI Too Long"), (415, "Unsupported Media Type"),
  (416, "Range Not Satisfiable"), (417, "Expectation Failed"), (418, "I'm a teapot"),
  (421, "Misdirected Request"), (422, "Unprocessable Entity"), (423, "Locked"),
  (424, "Failed Dependency"), (425, "Too Early"), (426, "Upgrade Required"),
  (428, "Precondition Required"), (429, "Too Many Requests"),
  (431, "Request Header Fields Too Large"), (451, "Unavailable For Legal Reasons"),
  (500, "Internal Server Error"), (501, "Not Implemented"), (502, "Bad Gateway"),
  (503, "Service Unavailable"), (504, "Gateway Timeout"), (505, "HTTP Version Not Supported"),
  (506, "Variant Also Negotiates"), (507, "Insufficient Storage"), (508, "Loop Detected"),
  (510, "Not Extended"), (511, "Network Authentication Required")]

def statusText (status : UInt16) : String :=
  toString status.toNat ++ " " ++ (phrases.lookup status.toNat).getD "<unknown status code>"

def errorRecord : Record ApiError :=
  (Record.pure fun status message reason code => ⟨status, code, message, reason⟩)
    |>.field (.required "status" Decoder.string)
    |>.field (.defaulted "message" Decoder.string "")
    |>.field (.defaulted "reason" Decoder.string "")
    |>.field (.required "code" Decoder.word16)

namespace Answer

def isError (answer : Answer) : Bool := 400 ≤ answer.status && answer.status < 600

/-- The document in the body, its fields as they stand there. -/
def document? (answer : Answer) : Option Json := Json.read? answer.body

def decode? {α : Type} (decode : Decoder α) (answer : Answer) : Option α :=
  answer.document?.bind fun document => (decode document).toOption

def error? (answer : Answer) : Option ApiError :=
  if answer.isError then
    some ((answer.decode? (errorRecord.decode "ErrorResponse")).getD
      ⟨statusText answer.status, answer.status, Text.quote answer.body,
        "Failed to parse error data"⟩)
  else none

def object {α : Type} (decode : Decoder α) (answer : Answer) : Except ClientError α :=
  match answer.error? with
  | some error => .error (.api error)
  | none =>
    match answer.decode? decode with
    | some a => .ok a
    | none => .error .unreadable

/-- The object that was asked for, or none if the error says that it does not exist. -/
def found {α : Type} (decode : Decoder α) (answer : Answer) : Except Failure (Option α) :=
  match answer.object decode with
  | .ok a => .ok (some a)
  | .error (.api error) => if error.code = 404 then .ok none else .error (.client (.api error))
  | .error other => .error (.client other)

/-- What a call makes of its answer. -/
def result (answer : Answer) : (call : Call) → Except Failure call.Result
  | .getDeployment _ _ => answer.found ClusterDeployment.decode
  | .getInstance _ _ => answer.found ClusterInstance.decode
  | .patchStatus _ _ _ =>
    match answer.object ClusterInstance.decode with
    | .ok _ => .ok ()
    | .error error => .error (.client error)

end Answer

end InstallStatus.Api
