import RegistryOperator.Api.Http
import RegistryOperator.Resource.ConfigMap
import RegistryOperator.Resource.Manifest

/-! The objects that make the registry run, at the API server: applying them, deleting them, and
finding out whether they are gone. -/

namespace RegistryOperator

/-- Whether the objects that a finalizer guards are gone. -/
inductive Teardown
  | complete
  /-- They were asked to go. -/
  | pending
deriving DecidableEq, Repr

def Teardown.word : Teardown → String
  | .complete => "complete"
  | .pending => "pending"

/-- Where the objects live and which image they run. -/
structure Dependents where
  ns : String
  image : String
deriving DecidableEq, Repr

namespace Dependents

/-- The service in front of the registry. -/
abbrev Service := Plain Kind.service

def decodeService : Decoder Service := Plain.decode Shape.service

def path (d : Dependents) (kind : Kind) : String := kind.path (some d.ns) ++ "/" ++ registryName

/-- The request that makes an object what its manifest says, taking over fields that others
manage. -/
def applyRequest (d : Dependents) (kind : Kind) (manifest : Json) : Request where
  method := .patch
  path := d.path kind
  query := [("force", "true"), ("fieldManager", fieldManager)]
  contentType := some "application/apply-patch+yaml"
  body := some manifest

/-- The request that deletes an object; what it owns is deleted after it. -/
def deleteRequest (d : Dependents) (kind : Kind) : Request where
  method := .delete
  path := d.path kind
  contentType := some "application/json"
  body := some (.obj [("propagationPolicy", .str "Background")])

/-- The request that reads the deployment. -/
def getRequest (d : Dependents) : Request where
  method := .get
  path := d.path Deployment.kind

/-- An error in doing something to an object. -/
def failed (action : String) (kind : Kind) (e : ApiFailure) : GeneratorError :=
  .request action kind.name registryName e

/-- The report about a deletion, as the server writes it. -/
def deletionReport : Decoder Unit :=
  let texts (name : String) : Reading String := .defaulted name Decode.string ""
  let cause : Reading Unit :=
    (fun _ _ _ => ()) <$> texts "reason" <*> texts "message" <*> texts "field"
  let details : Reading Unit :=
    (fun _ _ _ _ _ _ => ()) <$> texts "name" <*> texts "group" <*> texts "kind" <*> texts "uid"
      <*> .defaulted "causes" (Decode.list cause.decode) []
      <*> .defaulted "retryAfterSeconds" (Decode.whole 0 (2 ^ (32 : Nat) - 1)) 0
  let outcome : Decoder Unit :=
    Decode.word fun s => if s = "Success" ∨ s = "Failure" then some () else none
  ((fun _ _ _ _ _ => ()) <$> .optional "status" outcome
    <*> .defaulted "code" (Decode.whole 0 65535) 0
    <*> texts "message" <*> texts "reason"
    <*> .optional "details" details.decode : Reading Unit).decode

def apply (d : Dependents) (spec : RegistrySpec) : Program api (Except GeneratorError Unit) := do
  match RegistryDeployment.ofSpec spec d.ns d.image with
  | .error e => return .error e
  | .ok deployment =>
    match Reply.object Deployment.decode
        (← Api.send (d.applyRequest Deployment.kind deployment.toJson)) with
    | .error e => return .error (failed "apply" Deployment.kind e)
    | .ok _ =>
      match Reply.object decodeService
          (← Api.send (d.applyRequest Kind.service (serviceManifest d.ns))) with
      | .error e => return .error (failed "apply" Kind.service e)
      | .ok _ =>
        Api.report .debug s!"applied registry deployment and service in '{d.ns}'"
        return .ok ()

def delete {α : Type} (d : Dependents) (kind : Kind) (decode : Decoder α) :
    Program api (Except GeneratorError Unit) := do
  match Reply.deletion decode deletionReport (← Api.send (d.deleteRequest kind)) with
  | .ok () => return .ok ()
  | .error e =>
    if (failed "delete" kind e).isNotFound then return .ok ()
    else return .error (failed "delete" kind e)

def remove (d : Dependents) : Program api (Except GeneratorError Unit) := do
  match ← d.delete Deployment.kind Deployment.decode with
  | .error e => return .error e
  | .ok () => d.delete Kind.service decodeService

/-- Deletes both and asks whether the deployment is gone. -/
def finalize (d : Dependents) : Program api (Except GeneratorError Teardown) := do
  match ← d.remove with
  | .error e => return .error e
  | .ok () =>
    match Reply.object? Deployment.decode (← Api.send d.getRequest) with
    | .error e => return .error (failed "get" Deployment.kind e)
    | .ok none => return .ok .complete
    | .ok (some _) =>
      Api.report .info "waiting for the registry deployment to be deleted"
      return .ok .pending

end Dependents
end RegistryOperator
