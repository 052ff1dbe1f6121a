import RegistryOperator.Shape.Basic

/-! The shapes of volumes. -/

namespace RegistryOperator.Shape

/-- A reference by name to an object of the same namespace. -/
def localReference : Shape := .record (may .text ["name"])

/-- The expressions and labels that pick objects. -/
def labelSelector : Shape :=
  .record (may (.list (.record (must .text ["key", "operator"] ++ may texts ["values"])))
    ["matchExpressions"] ++ may textMap ["matchLabels"])

/-- What a container needs, at most and at least. -/
def resources : Shape := .record (may textMap ["limits", "requests"])

/-- A part of an object that becomes a file. -/
def keyToPath : Shape := .record (must .text ["key", "path"] ++ may .int32 ["mode"])

def fieldReference : Shape := .record (may .text ["apiVersion"] ++ must .text ["fieldPath"])

def resourceReference : Shape :=
  .record (may .text ["containerName", "divisor"] ++ must .text ["resource"])

/-- A fact about the pod that becomes a file. -/
def downwardFile : Shape :=
  .record (may fieldReference ["fieldRef"] ++ may .int32 ["mode"] ++ must .text ["path"] ++
    may resourceReference ["resourceFieldRef"])

def typedReference : Shape := .record (may .text ["apiGroup"] ++ must .text ["kind", "name"])

def claimSpec : Shape :=
  .record (may texts ["accessModes"] ++ may typedReference ["dataSource", "dataSourceRef"] ++
    may resources ["resources"] ++ may labelSelector ["selector"] ++
    may .text ["storageClassName", "volumeMode", "volumeName"])

/-- The fields that pick parts of a config map or a secret. -/
def projectedParts : List Field :=
  may (.list keyToPath) ["items"] ++ may .text ["name"] ++ may .bool ["optional"]

/-- One of the sources that a volume gathers. -/
def projection : Shape :=
  .record (may (.record projectedParts) ["configMap", "secret"] ++
    may (.record (may (.list downwardFile) ["items"])) ["downwardAPI"] ++
    may (.record (may .text ["audience"] ++ may .int64 ["expirationSeconds"] ++
      must .text ["path"])) ["serviceAccountToken"])

/-- The sources of a volume that the cluster itself has. -/
def clusterVolumes : List Field :=
  may (.record (may .int32 ["defaultMode"] ++ projectedParts)) ["configMap"] ++
  may (.record (may .int32 ["defaultMode"] ++ may (.list downwardFile) ["items"]))
    ["downwardAPI"] ++
  may (.record (may .text ["medium", "sizeLimit"])) ["emptyDir"] ++
  may (.record (may (.record (may .metadata ["metadata"] ++ must claimSpec ["spec"]))
    ["volumeClaimTemplate"])) ["ephemeral"] ++
  may (.record (may .text ["directory", "revision"] ++ must .text ["repository"])) ["gitRepo"] ++
  may (.record (must .text ["path"] ++ may .text ["type"])) ["hostPath"] ++
  may (.record (must .text ["claimName"] ++ may .bool ["readOnly"])) ["persistentVolumeClaim"] ++
  may (.record (may .int32 ["defaultMode"] ++ may (.list projection) ["sources"])) ["projected"] ++
  may (.record (may .int32 ["defaultMode"] ++ may (.list keyToPath) ["items"] ++
    may .bool ["optional"] ++ may .text ["secretName"])) ["secret"]

/-- The sources of a volume on a disk of a provider. -/
def diskVolumes : List Field :=
  may (.record (may .text ["fsType"] ++ may .int32 ["partition"] ++ may .bool ["readOnly"] ++
    must .text ["volumeID"])) ["awsElasticBlockStore"] ++
  may (.record (may .text ["cachingMode", "fsType", "kind"] ++ must .text ["diskName", "diskURI"] ++
    may .bool ["readOnly"])) ["azureDisk"] ++
  may (.record (may .bool ["readOnly"] ++ must .text ["secretName", "shareName"])) ["azureFile"] ++
  may (.record (may .text ["fsType"] ++ may .bool ["readOnly"] ++
    may localReference ["secretRef"] ++ must .text ["volumeID"])) ["cinder"] ++
  may (.record (may .text ["fsType"] ++ may .int32 ["partition"] ++ must .text ["pdName"] ++
    may .bool ["readOnly"])) ["gcePersistentDisk"] ++
  may (.record (may .text ["fsType"] ++ must .text ["pdID"])) ["photonPersistentDisk"] ++
  may (.record (may .text ["fsType"] ++ may .bool ["readOnly"] ++ must .text ["volumeID"]))
    ["portworxVolume"] ++
  may (.record (may .text ["fsType", "storagePolicyID", "storagePolicyName"] ++
    must .text ["volumePath"])) ["vsphereVolume"]

/-- The sources of a volume on the network. -/
def networkVolumes : List Field :=
  may (.record (must texts ["monitors"] ++ may .text ["path", "secretFile", "user"] ++
    may .bool ["readOnly"] ++ may localReference ["secretRef"])) ["cephfs"] ++
  may (.record (must .text ["driver"] ++ may .text ["fsType"] ++ may .bool ["readOnly"] ++
    may localReference ["nodePublishSecretRef"] ++ may textMap ["volumeAttributes"])) ["csi"] ++
  may (.record (may .text ["fsType"] ++ may .int32 ["lun"] ++ may .bool ["readOnly"] ++
    may texts ["targetWWNs", "wwids"])) ["fc"] ++
  may (.record (must .text ["driver"] ++ may .text ["fsType"] ++ may textMap ["options"] ++
    may .bool ["readOnly"] ++ may localReference ["secretRef"])) ["flexVolume"] ++
  may (.record (may .text ["datasetName", "datasetUUID"])) ["flocker"] ++
  may (.record (must .text ["endpoints", "path"] ++ may .bool ["readOnly"])) ["glusterfs"] ++
  may (.record (may .bool ["chapAuthDiscovery", "chapAuthSession", "readOnly"] ++
    may .text ["fsType", "initiatorName", "iscsiInterface"] ++ must .text ["iqn", "targetPortal"] ++
    must .int32 ["lun"] ++ may texts ["portals"] ++ may localReference ["secretRef"])) ["iscsi"] ++
  may (.record (must .text ["path", "server"] ++ may .bool ["readOnly"])) ["nfs"] ++
  may (.record (may .text ["group", "tenant", "user"] ++ may .bool ["readOnly"] ++
    must .text ["registry", "volume"])) ["quobyte"] ++
  may (.record (may .text ["fsType", "keyring", "pool", "user"] ++ must .text ["image"] ++
    must texts ["monitors"] ++ may .bool ["readOnly"] ++ may localReference ["secretRef"]))
    ["rbd"] ++
  may (.record (may .text ["fsType", "protectionDomain", "storageMode", "storagePool"] ++
    may .text ["volumeName"] ++ must .text ["gateway", "system"] ++
    may .bool ["readOnly", "sslEnabled"] ++ must localReference ["secretRef"])) ["scaleIO"] ++
  may (.record (may .text ["fsType", "volumeName", "volumeNamespace"] ++ may .bool ["readOnly"] ++
    may localReference ["secretRef"])) ["storageos"]

def volume : Shape :=
  .record (must .text ["name"] ++ clusterVolumes ++ diskVolumes ++ networkVolumes)

end RegistryOperator.Shape
