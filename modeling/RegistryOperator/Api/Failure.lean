import RegistryOperator.Api.Uri
import RegistryOperator.Json.Decode
import RegistryOperator.Text.Quoted

/-! Why a request to the API server failed, and what that means for a write and for a dependent
object. -/

namespace RegistryOperator

/-- The refusal that the API server sends. Its code, and not that of the response, is what
counts. -/
structure Refusal where
  status : String
  message : String
  reason : String
  code : Nat
deriving DecidableEq, Repr

namespace Refusal

def reading : Reading Refusal :=
  (fun status message reason code => ⟨status, message, reason, Int.toNat code⟩)
    <$> .required "status" Decode.string <*> .defaulted "message" Decode.string ""
    <*> .defaulted "reason" Decode.string "" <*> .required "code" (Decode.whole 0 65535)

def brief (r : Refusal) : String := r.message ++ ": " ++ r.reason

def text (r : Refusal) : String :=
  r.brief ++ " (ErrorResponse \x7b status: " ++ Text.quote r.status ++ ", message: " ++
    Text.quote r.message ++ ", reason: " ++ Text.quote r.reason ++ ", code: " ++ toString r.code ++
    " \x7d)"

end Refusal

/-- Why a request failed. -/
inductive ApiFailure
  /-- The server refused it. -/
  | refused (refusal : Refusal)
  /-- What it asks for is no address, so it was not sent. -/
  | unsendable (fault : UriFault)
  /-- It did not reach the server. -/
  | connection (text : String)
  /-- The body of the response is not the object asked for. -/
  | unreadable
  /-- The body of the response is not UTF-8. -/
  | notUtf8 (text : String)
  /-- A line of a stream has no end. -/
  | endlessLine
deriving DecidableEq, Repr

namespace ApiFailure

def message : ApiFailure → String
  | .refused refusal => "ApiError: " ++ refusal.text
  | .unsendable fault =>
    "Failed to build request: failed to build request: " ++ fault.message
  | .connection text => "ServiceError: " ++ text
  | .unreadable => "Error deserializing response"
  | .notUtf8 text => "UTF-8 Error: " ++ text
  | .endlessLine => "Error finding newline character"

def code : ApiFailure → Option Nat
  | .refused refusal => some refusal.code
  | _ => none

def reason : ApiFailure → Option String
  | .refused refusal => some refusal.reason
  | _ => none

end ApiFailure

/-- Why a write failed. -/
inductive StoreError
  | alreadyExists (name : String) (source : ApiFailure)
  /-- The object changed since it was read. -/
  | conflict (method name : String) (source : ApiFailure)
  | notFound (method name : String) (source : ApiFailure)
  | request (method name : String) (source : ApiFailure)
deriving DecidableEq, Repr

namespace StoreError

/-- The meaning of a failed request for a write. The code 409 means that the object exists if the
server says so, and otherwise that its version changed. -/
def ofFailure (method name : String) (e : ApiFailure) : StoreError :=
  if e.code = some 409 then
    if e.reason = some "AlreadyExists" then .alreadyExists name e else .conflict method name e
  else if e.code = some 404 then .notFound method name e
  else .request method name e

def message : StoreError → String
  | .alreadyExists name e => s!"'{name}' already exists: {e.message}"
  | .conflict method name e =>
    s!"Unable to {method} '{name}', it was modified concurrently: {e.message}"
  | .notFound method name e => s!"Unable to {method} '{name}', it does not exist: {e.message}"
  | .request method name e => s!"Unable to {method} '{name}': {e.message}"

def kind : StoreError → String
  | .alreadyExists .. => "AlreadyExists"
  | .conflict .. => "Conflict"
  | .notFound .. => "NotFound"
  | .request .. => "Request"

/-- Whether the object changed since it was read; reading it again helps. -/
def isConflict : StoreError → Bool
  | .conflict .. => true
  | _ => false

def isAlreadyExists : StoreError → Bool
  | .alreadyExists .. => true
  | _ => false

end StoreError

/-- Why the objects that a registry needs could not be created or removed. -/
inductive GeneratorError
  | storageNotConfigured
  | request (action kind name : String) (source : ApiFailure)
deriving DecidableEq, Repr

namespace GeneratorError

def message : GeneratorError → String
  | .storageNotConfigured => "storage backend is not configured"
  | .request action kind name e => s!"Unable to {action} {kind} '{name}': {e.message}"

def kind : GeneratorError → String
  | .storageNotConfigured => "StorageNotConfigured"
  | .request .. => "KubeApi"

/-- Whether the server says that the object is not there. -/
def isNotFound : GeneratorError → Bool
  | .storageNotConfigured => false
  | .request _ _ _ e => e.code = some 404

def isStorageNotConfigured : GeneratorError → Bool
  | .storageNotConfigured => true
  | .request .. => false

end GeneratorError

/-- Why an answer of the caches could not be given. -/
inductive ListerError
  | notSynced (kind : String)
deriving DecidableEq, Repr

namespace ListerError

def message : ListerError → String
  | .notSynced kind => s!"The {kind} cache has not completed its initial list"

end ListerError
end RegistryOperator
