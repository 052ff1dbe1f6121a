import RegistryOperator.Resource.Condition
import RegistryOperator.Resource.Kind

/-! The custom resource that describes the registry: what it should be, and what the operator last
saw of it. There is exactly one in a cluster. -/

namespace RegistryOperator

/-- What the operator should do with the registry. -/
inductive ManagementState
  /-- Keep it deployed and up to date. -/
  | managed
  /-- Remove everything that was created for it. -/
  | removed
  /-- Leave it alone. -/
  | unmanaged
  /-- A word the operator does not know, kept as it is. -/
  | unknown (word : String)
deriving DecidableEq, Repr, Inhabited

namespace ManagementState

def word : ManagementState → String
  | .managed => "Managed"
  | .removed => "Removed"
  | .unmanaged => "Unmanaged"
  | .unknown word => word

def kind : ManagementState → String
  | .unknown _ => "Unknown"
  | known => known.word

def ofWord (s : String) : ManagementState :=
  if s = "Managed" then .managed
  else if s = "Removed" then .removed
  else if s = "Unmanaged" then .unmanaged
  else .unknown s

def decode : Decoder ManagementState := fun scan => (Decode.string scan).map ofWord

end ManagementState

/-- Storage that lives as long as its pod. -/
structure EmptyDirStorage where
deriving DecidableEq, Repr

/-- A persistent volume claim in the operator's namespace. -/
structure PvcStorage where
  claim : String
deriving DecidableEq, Repr

/-- A bucket of an object store. -/
structure S3Storage where
  bucket : String
  region : String
deriving DecidableEq, Repr

/-- The storage backends of a registry. -/
structure RegistryStorage where
  emptyDir : Option EmptyDirStorage := none
  pvc : Option PvcStorage := none
  s3 : Option S3Storage := none
deriving DecidableEq, Repr, Inhabited

namespace RegistryStorage

/-- The number of backends that are configured. -/
def backends (s : RegistryStorage) : Nat :=
  s.emptyDir.isSome.toNat + s.pvc.isSome.toNat + s.s3.isSome.toNat

def isConfigured (s : RegistryStorage) : Bool := 0 < s.backends

def reading : Reading RegistryStorage :=
  RegistryStorage.mk
    <$> .optional "emptyDir" (Reading.pure EmptyDirStorage.mk).decode
    <*> .optional "pvc"
      (PvcStorage.mk <$> .required "claim" Decode.string : Reading PvcStorage).decode
    <*> .optional "s3"
      (S3Storage.mk <$> .required "bucket" Decode.string <*> .required "region" Decode.string :
        Reading S3Storage).decode

def decode : Decoder RegistryStorage := reading.decode

def toJson (s : RegistryStorage) : Json :=
  .record [("emptyDir", s.emptyDir.map fun _ => .obj []),
    ("pvc", s.pvc.map fun p => .obj [("claim", .str p.claim)]),
    ("s3", s.s3.map fun b => .obj [("bucket", .str b.bucket), ("region", .str b.region)])]

end RegistryStorage

/-- The desired state of the registry. -/
structure RegistrySpec where
  managementState : ManagementState := .managed
  replicas : Int := 1
  storage : RegistryStorage := {}
  logLevel : Option String := none
deriving DecidableEq, Repr, Inhabited

namespace RegistrySpec

def reading : Reading RegistrySpec :=
  RegistrySpec.mk <$> .required "managementState" ManagementState.decode
    <*> .required "replicas" Decode.int32
    <*> .defaulted "storage" RegistryStorage.decode {}
    <*> .optional "logLevel" Decode.string

def decode : Decoder RegistrySpec := reading.decode

def toJson (s : RegistrySpec) : Json :=
  .record [("managementState", some (.str s.managementState.word)),
    ("replicas", some (.int s.replicas)), ("storage", some s.storage.toJson),
    ("logLevel", s.logLevel.map .str)]

end RegistrySpec

/-- What the operator last saw of the registry. -/
structure RegistryStatus where
  observedGeneration : Int := 0
  readyReplicas : Int := 0
  conditions : List Condition := []
deriving DecidableEq, Repr, Inhabited

namespace RegistryStatus

def reading : Reading RegistryStatus :=
  RegistryStatus.mk <$> .defaulted "observedGeneration" Decode.int64 0
    <*> .defaulted "readyReplicas" Decode.int32 0
    <*> .defaulted "conditions" (Decode.list Condition.decode) []

def decode : Decoder RegistryStatus := reading.decode

def toJson (s : RegistryStatus) : Json :=
  .obj [("observedGeneration", .int s.observedGeneration), ("readyReplicas", .int s.readyReplicas),
    ("conditions", .arr (s.conditions.map Condition.toJson))]

end RegistryStatus

/-- The custom resource. -/
structure ImageRegistry where
  metadata : Metadata := {}
  spec : RegistrySpec := {}
  status : Option RegistryStatus := none
deriving DecidableEq, Inhabited

namespace ImageRegistry

def group : String := "registry.operator.dev"

def kind : Kind := ⟨"ImageRegistry", group, "v1", "imageregistries"⟩

/-- The name of the only object of this kind that counts. -/
def clusterName : String := "cluster"

/-- The finalizer that holds the object until everything created for it is gone. -/
def finalizer : String := "registry.operator.dev/registry"

/-- The object to create when there is none. It has no finalizer; the first regular pass adds it. -/
def bootstrap (spec : RegistrySpec) : ImageRegistry :=
  { metadata := { name := some clusterName }, spec }

/-- The fields of the resource. Its version and kind are not read: the collection decides them. -/
def reading : Reading ImageRegistry :=
  ImageRegistry.mk <$> .required "metadata" Metadata.decode <*> .required "spec" RegistrySpec.decode
    <*> .nullable "status" RegistryStatus.decode

def decode : Decoder ImageRegistry := reading.decode

def toJson (r : ImageRegistry) : Json :=
  .record [("apiVersion", some (.str kind.apiVersion)), ("kind", some (.str kind.name)),
    ("metadata", some r.metadata.toJson), ("spec", some r.spec.toJson),
    ("status", r.status.map RegistryStatus.toJson)]

def name (r : ImageRegistry) : String := r.metadata.objectName

instance : Resource ImageRegistry := ⟨ImageRegistry.metadata⟩

end ImageRegistry
end RegistryOperator
