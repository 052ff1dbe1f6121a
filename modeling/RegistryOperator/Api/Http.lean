import RegistryOperator.Api.Failure
import RegistryOperator.Json.Strings
import RegistryOperator.Log.Line
import RegistryOperator.Program
import RegistryOperator.Text.Utf8

/-! Requests to the API server, its responses, and what they mean. -/

namespace RegistryOperator

/-- What a request does. -/
inductive Method
  | get
  | post
  | put
  | patch
  | delete
deriving DecidableEq, Repr

def Method.name : Method → String
  | .get => "GET"
  | .post => "POST"
  | .put => "PUT"
  | .patch => "PATCH"
  | .delete => "DELETE"

/-- A request. -/
structure Request where
  method : Method
  path : String
  query : List (String × String) := []
  contentType : Option String := none
  body : Option Json := none
deriving DecidableEq

/-- A response. Its body is text, unless its bytes are not. -/
structure Response where
  status : Nat
  body : Except Utf8.Fault String

/-- What comes back: a response, or why there is none. -/
abbrev Reply := Except ApiFailure Response

namespace Request

/-- What the request asks for: the path with the query. -/
def target (r : Request) : String :=
  r.path ++ "?" ++ "&".intercalate (r.query.map fun (name, value) => name ++ "=" ++ value)

/-- Why the request cannot be sent, if it cannot. -/
def fault? (r : Request) : Option ApiFailure :=
  match Uri.checkTarget r.target with
  | .ok () => none
  | .error fault => some (.unsendable fault)

def membersOf (query : String) : List (String × String) :=
  ((query.splitOn "&").filter (· ≠ "")).map fun member =>
    match member.splitOn "=" with
    | name :: rest => (name, "=".intercalate rest)
    | [] => (member, "")

/-- The request as it arrives. A path that has marks in it ends there: at a question mark the query
begins, and what follows a number sign is lost. -/
def onArrival (r : Request) : Request :=
  let path := String.ofList (r.path.toList.takeWhile fun c => c ≠ '?' && c ≠ '#')
  if path = r.path then r
  else
    let target := r.target.toList.takeWhile (· ≠ '#')
    let query := String.ofList ((target.dropWhile (· ≠ '?')).drop 1)
    { r with path, query := membersOf query }

end Request

namespace Response

def phrase (status : Nat) : String :=
  match status with
  | 400 => "Bad Request"
  | 401 => "Unauthorized"
  | 402 => "Payment Required"
  | 403 => "Forbidden"
  | 404 => "Not Found"
  | 405 => "Method Not Allowed"
  | 406 => "Not Acceptable"
  | 407 => "Proxy Authentication Required"
  | 408 => "Request Timeout"
  | 409 => "Conflict"
  | 410 => "Gone"
  | 411 => "Length Required"
  | 412 => "Precondition Failed"
  | 413 => "Payload Too Large"
  | 414 => "URI Too Long"
  | 415 => "Unsupported Media Type"
  | 416 => "Range Not Satisfiable"
  | 417 => "Expectation Failed"
  | 418 => "I'm a teapot"
  | 421 => "Misdirected Request"
  | 422 => "Unprocessable Entity"
  | 423 => "Locked"
  | 424 => "Failed Dependency"
  | 426 => "Upgrade Required"
  | 428 => "Precondition Required"
  | 429 => "Too Many Requests"
  | 431 => "Request Header Fields Too Large"
  | 451 => "Unavailable For Legal Reasons"
  | 500 => "Internal Server Error"
  | 501 => "Not Implemented"
  | 502 => "Bad Gateway"
  | 503 => "Service Unavailable"
  | 504 => "Gateway Timeout"
  | 505 => "HTTP Version Not Supported"
  | 506 => "Variant Also Negotiates"
  | 507 => "Insufficient Storage"
  | 508 => "Loop Detected"
  | 510 => "Not Extended"
  | 511 => "Network Authentication Required"
  | _ => "<unknown status code>"

/-- The refusal in the body of a response, or one made up from the response. -/
def refusal (status : Nat) (text : String) : Refusal :=
  match Decoder.ofText Refusal.reading.decode text with
  | .ok refusal => refusal
  | .error _ =>
    ⟨toString status ++ " " ++ phrase status, Text.quote text, "Failed to parse error data", status⟩

def text (r : Response) : Except ApiFailure String :=
  match r.body with
  | .error fault => .error (.notUtf8 fault.message)
  | .ok text =>
    if 400 ≤ r.status ∧ r.status < 600 then .error (.refused (refusal r.status text)) else .ok text

end Response

namespace Reply

variable {α : Type}

def text : Reply → Except ApiFailure String
  | .error failure => .error failure
  | .ok response => response.text

def object (d : Decoder α) (r : Reply) : Except ApiFailure α :=
  match Reply.text r with
  | .error e => .error e
  | .ok text => (d.ofText text).mapError fun _ => .unreadable

/-- The object in a reply, none if the server says that it is not there. -/
def object? (d : Decoder α) (r : Reply) : Except ApiFailure (Option α) :=
  match Reply.object d r with
  | .ok a => .ok (some a)
  | .error e => if e.reason = some "NotFound" then .ok none else .error e

/-- The reply to a deletion is the deleted object or a report of what was done. -/
def deletion (d : Decoder α) (report : Decoder Unit) (r : Reply) : Except ApiFailure Unit :=
  match Reply.text r with
  | .error e => .error e
  | .ok text =>
    match Json.parse text with
    | .error _ => .error .unreadable
    | .ok j =>
      if j.get? "kind" = some (.str "Status") then
        (report.ofText text).mapError fun _ => .unreadable
      else
        match d.ofText text with
        | .ok _ => .ok ()
        | .error _ => .error .unreadable

end Reply

/-- What a program that talks to the API server may ask. -/
inductive ApiQuestion
  | send (r : Request)
  /-- Something to report; there is nothing to answer. -/
  | report (line : LogLine)

def ApiQuestion.Answer : ApiQuestion → Type
  | .send _ => Reply
  | .report _ => Unit

def api : Interface := ⟨ApiQuestion, ApiQuestion.Answer⟩

namespace Api

def send (r : Request) : Program api Reply :=
  match r.fault? with
  | some failure => return .error failure
  | none => Program.question (I := api) (.send r.onArrival)

def report (level : LogLevel) (message : String) : Program api Unit :=
  Program.question (I := api) (.report ⟨level, message⟩)

end Api
end RegistryOperator
