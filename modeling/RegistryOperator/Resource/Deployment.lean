import RegistryOperator.Resource.Kind
import RegistryOperator.Shape.Object

/-! Deployments as the cluster reports them. The spec is kept as a document of its shape: what it
should say is a matter of the manifests, and nothing is decided from it. -/

namespace RegistryOperator

/-- The progress of a deployment. -/
structure DeploymentStatus where
  availableReplicas : Option Int := none
  collisionCount : Option Int := none
  conditions : Option Json := none
  observedGeneration : Option Int := none
  readyReplicas : Option Int := none
  replicas : Option Int := none
  unavailableReplicas : Option Int := none
  updatedReplicas : Option Int := none
deriving DecidableEq, Inhabited

/-- A deployment. -/
structure Deployment where
  metadata : Metadata := {}
  spec : Option Json := none
  status : Option DeploymentStatus := none
deriving DecidableEq, Inhabited

namespace Decode

/-- A field that may be absent but, if present, has to be the text `expected`. -/
def exactly (expected : String) : Decoder Unit :=
  via string fun s => if s = expected then some () else none

end Decode

/-- The fields of an object that states its version and kind: both may be absent, but not wrong. -/
def Kind.stated {α : Type} (k : Kind) (fields : Reading α) : Reading α :=
  (fun _ _ a => a) <$> .defaulted "apiVersion" (Decode.exactly k.apiVersion) ()
    <*> .defaulted "kind" (Decode.exactly k.name) () <*> fields

namespace DeploymentStatus

def reading : Reading DeploymentStatus :=
  DeploymentStatus.mk <$> .nullable "availableReplicas" Decode.int32
    <*> .nullable "collisionCount" Decode.int32
    <*> .nullable "conditions" (Shape.list Shape.deploymentCondition).read
    <*> .nullable "observedGeneration" Decode.int64
    <*> .nullable "readyReplicas" Decode.int32
    <*> .nullable "replicas" Decode.int32
    <*> .nullable "unavailableReplicas" Decode.int32
    <*> .nullable "updatedReplicas" Decode.int32

def toJson (s : DeploymentStatus) : Json :=
  .record [("availableReplicas", s.availableReplicas.map .int),
    ("collisionCount", s.collisionCount.map .int), ("conditions", s.conditions),
    ("observedGeneration", s.observedGeneration.map .int),
    ("readyReplicas", s.readyReplicas.map .int), ("replicas", s.replicas.map .int),
    ("unavailableReplicas", s.unavailableReplicas.map .int),
    ("updatedReplicas", s.updatedReplicas.map .int)]

end DeploymentStatus

namespace Deployment

def kind : Kind := ⟨"Deployment", "apps", "v1", "deployments"⟩

def reading : Reading Deployment :=
  kind.stated <| (fun metadata spec status => ⟨metadata.getD {}, spec, status⟩)
    <$> .nullable "metadata" Metadata.decode
    <*> .nullable "spec" Shape.deploymentSpec.read
    <*> .nullable "status" DeploymentStatus.reading.decodeObject

def decode : Decoder Deployment := reading.decodeObject

def toJson (d : Deployment) : Json :=
  .record [("apiVersion", some (.str kind.apiVersion)), ("kind", some (.str kind.name)),
    ("metadata", some d.metadata.toJson), ("spec", d.spec),
    ("status", d.status.map DeploymentStatus.toJson)]

instance : Resource Deployment := ⟨Deployment.metadata⟩

end Deployment
end RegistryOperator
