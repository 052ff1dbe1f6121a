import RegistryOperator.Shape.Volume

/-! The shapes of pods and of the templates for them. -/

namespace RegistryOperator.Shape

/-! Containers -/

def keyReference : Shape :=
  .record (must .text ["key"] ++ may .text ["name"] ++ may .bool ["optional"])

def variableOf : Shape :=
  .record (must .text ["name"] ++ may .text ["value"] ++
    may (.record (may keyReference ["configMapKeyRef", "secretKeyRef"] ++
      may fieldReference ["fieldRef"] ++ may resourceReference ["resourceFieldRef"])) ["valueFrom"])

def variablesFrom : Shape :=
  let whole : Shape := .record (may .text ["name"] ++ may .bool ["optional"])
  .record (may whole ["configMapRef", "secretRef"] ++ may .text ["prefix"])

def command : Shape := .record (may texts ["command"])

def webRequest : Shape :=
  .record (may .text ["host", "path", "scheme"] ++
    may (.list (.record (must .text ["name", "value"]))) ["httpHeaders"] ++
    must .intOrText ["port"])

def connection : Shape := .record (may .text ["host"] ++ must .intOrText ["port"])

def action : List Field :=
  may command ["exec"] ++ may webRequest ["httpGet"] ++ may connection ["tcpSocket"]

/-- How it is found out how a container is. -/
def probe : Shape :=
  .record (action ++ may (.record (must .int32 ["port"] ++ may .text ["service"])) ["grpc"] ++
    may .int32 ["failureThreshold", "initialDelaySeconds", "periodSeconds", "successThreshold",
      "timeoutSeconds"] ++ may .int64 ["terminationGracePeriodSeconds"])

def containerPort : Shape :=
  .record (must .int32 ["containerPort"] ++ may .text ["hostIP", "name", "protocol"] ++
    may .int32 ["hostPort"])

/-- Labels for the protection of processes. -/
def processLabels : Shape := .record (may .text ["level", "role", "type", "user"])

/-- Which calls to the system are allowed. -/
def callProfile : Shape := .record (may .text ["localhostProfile"] ++ must .text ["type"])

def otherSystem : Shape :=
  .record (may .text ["gmsaCredentialSpec", "gmsaCredentialSpecName", "runAsUserName"] ++
    may .bool ["hostProcess"])

/-- The rights that containers and pods have alike. -/
def rights : List Field :=
  may .int64 ["runAsGroup", "runAsUser"] ++ may .bool ["runAsNonRoot"] ++
    may processLabels ["seLinuxOptions"] ++ may callProfile ["seccompProfile"] ++
    may otherSystem ["windowsOptions"]

def containerRights : Shape :=
  .record (rights ++ may .bool ["allowPrivilegeEscalation", "privileged",
    "readOnlyRootFilesystem"] ++ may (.record (may texts ["add", "drop"])) ["capabilities"] ++
    may .text ["procMount"])

/-- Where a volume appears in a container. -/
def mount : Shape :=
  .record (must .text ["mountPath", "name"] ++ may .bool ["readOnly"] ++
    may .text ["mountPropagation", "subPath", "subPathExpr"])

def containerFields : List Field :=
  must .text ["name"] ++ may texts ["args", "command"] ++ may (.list variableOf) ["env"] ++
    may (.list variablesFrom) ["envFrom"] ++
    may .text ["image", "imagePullPolicy", "terminationMessagePath", "terminationMessagePolicy",
      "workingDir"] ++
    may (.record (may (.record action) ["postStart", "preStop"])) ["lifecycle"] ++
    may probe ["livenessProbe", "readinessProbe", "startupProbe"] ++
    may (.list containerPort) ["ports"] ++ may resources ["resources"] ++
    may containerRights ["securityContext"] ++ may .bool ["stdin", "stdinOnce", "tty"] ++
    may (.list (.record (must .text ["devicePath", "name"]))) ["volumeDevices"] ++
    may (.list mount) ["volumeMounts"]

def container : Shape := .record containerFields

/-- A container that is added to a pod for a while. -/
def guestContainer : Shape := .record (containerFields ++ may .text ["targetContainerName"])

/-! Where a pod may run -/

def nodeTerm : Shape :=
  let requirement : Shape := .record (must .text ["key", "operator"] ++ may texts ["values"])
  .record (may (.list requirement) ["matchExpressions", "matchFields"])

def podTerm : Shape :=
  .record (may labelSelector ["labelSelector", "namespaceSelector"] ++ may texts ["namespaces"] ++
    must .text ["topologyKey"])

def preferred : String := "preferredDuringSchedulingIgnoredDuringExecution"

def necessary : String := "requiredDuringSchedulingIgnoredDuringExecution"

def affinity : Shape :=
  let nodes : Shape := .record (
    may (.list (.record (must nodeTerm ["preference"] ++ must .int32 ["weight"]))) [preferred] ++
    may (.record (must (.list nodeTerm) ["nodeSelectorTerms"])) [necessary])
  let pods : Shape := .record (
    may (.list (.record (must podTerm ["podAffinityTerm"] ++ must .int32 ["weight"])))
      [preferred] ++ may (.list podTerm) [necessary])
  .record (may nodes ["nodeAffinity"] ++ may pods ["podAffinity", "podAntiAffinity"])

def toleration : Shape :=
  .record (may .text ["effect", "key", "operator", "value"] ++ may .int64 ["tolerationSeconds"])

def spread : Shape :=
  .record (may labelSelector ["labelSelector"] ++ must .int32 ["maxSkew"] ++
    may .int32 ["minDomains"] ++ must .text ["topologyKey", "whenUnsatisfiable"])

/-! Pods -/

def nameLookup : Shape :=
  .record (may texts ["nameservers", "searches"] ++
    may (.list (.record (may .text ["name", "value"]))) ["options"])

def podRights : Shape :=
  .record (rights ++ may .int64 ["fsGroup"] ++ may .text ["fsGroupChangePolicy"] ++
    may (.list .int64) ["supplementalGroups"] ++
    may (.list (.record (must .text ["name", "value"]))) ["sysctls"])

def podSpec : Shape :=
  .record (must (.list container) ["containers"] ++ may (.list container) ["initContainers"] ++
    may (.list guestContainer) ["ephemeralContainers"] ++
    may .int64 ["activeDeadlineSeconds", "terminationGracePeriodSeconds"] ++
    may .int32 ["priority"] ++
    may .bool ["automountServiceAccountToken", "enableServiceLinks", "hostIPC", "hostNetwork",
      "hostPID", "setHostnameAsFQDN", "shareProcessNamespace"] ++
    may .text ["dnsPolicy", "hostname", "nodeName", "preemptionPolicy", "priorityClassName",
      "restartPolicy", "runtimeClassName", "schedulerName", "serviceAccount", "serviceAccountName",
      "subdomain"] ++
    may textMap ["nodeSelector", "overhead"] ++ may affinity ["affinity"] ++
    may nameLookup ["dnsConfig"] ++
    may (.list (.record (may texts ["hostnames"] ++ may .text ["ip"]))) ["hostAliases"] ++
    may (.list localReference) ["imagePullSecrets"] ++ may (.record (must .text ["name"])) ["os"] ++
    may (.list (.record (must .text ["conditionType"]))) ["readinessGates"] ++
    may podRights ["securityContext"] ++ may (.list toleration) ["tolerations"] ++
    may (.list spread) ["topologySpreadConstraints"] ++ may (.list volume) ["volumes"])

def podTemplate : Shape := .record (may .metadata ["metadata"] ++ may podSpec ["spec"])

end RegistryOperator.Shape
