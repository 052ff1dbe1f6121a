import RegistryOperator.Api.Http
import RegistryOperator.Resource.ImageRegistry

/-! Writing the registry to the API server. A write carries the version of the object that it is
based on, and the server refuses it if the object has another version by then. -/

namespace RegistryOperator

/-- The writes of a registry. -/
inductive Write
  | create
  /-- Metadata and spec. -/
  | update
  | updateStatus
deriving DecidableEq, Repr

namespace Write

def word : Write → String
  | .create => "create"
  | .update => "update"
  | .updateStatus => "update status"

def report (w : Write) (r : ImageRegistry) : String :=
  let version := Text.quoteOption r.metadata.resourceVersion
  match w with
  | .create => s!"creating image registry '{r.name}'"
  | .update => s!"updating image registry '{r.name}' at version {version}"
  | .updateStatus => s!"updating status of image registry '{r.name}' at version {version}"

def request (w : Write) (r : ImageRegistry) : Request :=
  let collection := ImageRegistry.kind.path none
  let (method, path) := match w with
    | .create => (Method.post, collection)
    | .update => (.put, collection ++ "/" ++ r.name)
    | .updateStatus => (.put, collection ++ "/" ++ r.name ++ "/status")
  { method, path, contentType := some "application/json", body := some r.toJson }

/-- Sends a write; what comes back is the object as it is stored. -/
def send (w : Write) (r : ImageRegistry) : Program api (Except StoreError ImageRegistry) := do
  Api.report .trace (w.report r)
  let reply ← Api.send (w.request r)
  return (Reply.object ImageRegistry.decode reply).mapError (.ofFailure w.word r.name)

end Write
end RegistryOperator
