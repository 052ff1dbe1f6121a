import RegistryOperator.Api.Failure
import RegistryOperator.Resource.ImageRegistry

/-! The objects that make the registry run: a deployment that follows the spec, and a service in
front of it. -/

namespace RegistryOperator

/-- The name of the deployment and of the service, and of the container in the pod. -/
def registryName : String := "image-registry"

/-- The name under which the operator applies objects. -/
def fieldManager : String := "registry-operator"

def registryPort : Nat := 5000

def appNameLabel : String := "app.kubernetes.io/name"

/-- The label that names what manages an object. -/
def managedByLabel : String := "app.kubernetes.io/managed-by"

/-- The labels of everything that belongs to the registry. -/
def registryLabels : StringMap :=
  .ofList [(appNameLabel, registryName), (managedByLabel, fieldManager)]

/-- An environment variable of a container. -/
structure EnvVar where
  name : String
  value : String
deriving DecidableEq, Repr

/-- What a volume holds. -/
inductive VolumeSource
  | emptyDir
  | claim (name : String)
deriving DecidableEq, Repr

/-- A volume of a pod. -/
structure Volume where
  name : String
  source : VolumeSource
deriving DecidableEq, Repr

/-- Where a volume appears in a container. -/
structure VolumeMount where
  name : String
  path : String
deriving DecidableEq, Repr

/-- The deployment that runs the registry. -/
structure RegistryDeployment where
  ns : String
  image : String
  replicas : Int
  env : List EnvVar
  volume : Option Volume
  mount : Option VolumeMount
deriving DecidableEq, Repr

namespace RegistryDeployment

/-- The name of the volume with the images. -/
def volumeName : String := "registry-storage"

def storagePath : String := "/var/lib/registry"

/-- The variables that point the registry at its storage, and the volume that they need. A bucket
comes before a claim, and a claim before storage that lives with the pod. -/
def storageConfig (s : RegistryStorage) : List EnvVar × Option Volume :=
  match s.s3 with
  | some b =>
    ([⟨"REGISTRY_STORAGE", "s3"⟩, ⟨"REGISTRY_STORAGE_S3_BUCKET", b.bucket⟩,
      ⟨"REGISTRY_STORAGE_S3_REGION", b.region⟩], none)
  | none =>
    let source := match s.pvc with
      | some p => VolumeSource.claim p.claim
      | none => .emptyDir
    ([⟨"REGISTRY_STORAGE", "filesystem"⟩,
      ⟨"REGISTRY_STORAGE_FILESYSTEM_ROOTDIRECTORY", storagePath⟩], some ⟨volumeName, source⟩)

/-- The deployment of a spec; there is none without a storage backend. -/
def ofSpec (spec : RegistrySpec) (ns image : String) : Except GeneratorError RegistryDeployment :=
  if spec.storage.isConfigured then
    let (storage, volume) := storageConfig spec.storage
    let address : EnvVar := ⟨"REGISTRY_HTTP_ADDR", ":" ++ toString registryPort⟩
    let level := spec.logLevel.toList.map fun level => ⟨"REGISTRY_LOG_LEVEL", level⟩
    .ok
      { ns, image, volume
        replicas := spec.replicas
        env := storage ++ address :: level
        mount := volume.map fun v => ⟨v.name, storagePath⟩ }
  else .error .storageNotConfigured

def volumeJson (v : Volume) : Json :=
  match v.source with
  | .emptyDir => .obj [("emptyDir", .obj []), ("name", .str v.name)]
  | .claim claim =>
    .obj [("name", .str v.name), ("persistentVolumeClaim", .obj [("claimName", .str claim)])]

def containerJson (d : RegistryDeployment) : Json :=
  .record [
    ("env", some (.arr (d.env.map fun e => .obj [("name", .str e.name), ("value", .str e.value)]))),
    ("image", some (.str d.image)),
    ("name", some (.str registryName)),
    ("ports", some (.arr [.obj [("containerPort", .int registryPort)]])),
    ("volumeMounts", d.mount.map fun m =>
      .arr [.obj [("mountPath", .str m.path), ("name", .str m.name)]])]

def toJson (d : RegistryDeployment) : Json :=
  let labels := registryLabels.toJson
  .obj [("apiVersion", .str "apps/v1"), ("kind", .str "Deployment"),
    ("metadata", .obj [("labels", labels), ("name", .str registryName), ("namespace", .str d.ns)]),
    ("spec", .obj [
      ("replicas", .int d.replicas),
      ("selector", .obj [("matchLabels", labels)]),
      ("template", .obj [
        ("metadata", .obj [("labels", labels)]),
        ("spec", .record [
          ("containers", some (.arr [d.containerJson])),
          ("volumes", d.volume.map fun v => .arr [volumeJson v])])])])]

end RegistryDeployment

/-- The document of the service in front of the registry. -/
def serviceManifest (ns : String) : Json :=
  let labels := registryLabels.toJson
  .obj [("apiVersion", .str "v1"), ("kind", .str "Service"),
    ("metadata", .obj [("labels", labels), ("name", .str registryName), ("namespace", .str ns)]),
    ("spec", .obj [
      ("ports", .arr [.obj [("name", .str "registry"), ("port", .int registryPort),
        ("targetPort", .int registryPort)]]),
      ("selector", labels)])]

end RegistryOperator
