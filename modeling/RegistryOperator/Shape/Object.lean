import RegistryOperator.Shape.Pod

/-! The shapes of the objects that the operator watches, beside their metadata. -/

namespace RegistryOperator.Shape

/-! What runs pods -/

def replacement : Shape :=
  .record (may (.record (may .intOrText ["maxSurge", "maxUnavailable"])) ["rollingUpdate"] ++
    may .text ["type"])

/-- The selector of pods and the template for them. -/
def pods : List Field := must labelSelector ["selector"] ++ must podTemplate ["template"]

def deploymentSpec : Shape :=
  .record (pods ++ may .int32 ["minReadySeconds", "progressDeadlineSeconds", "replicas",
    "revisionHistoryLimit"] ++ may .bool ["paused"] ++ may replacement ["strategy"])

def deploymentCondition : Shape :=
  .record (may .time ["lastTransitionTime", "lastUpdateTime"] ++ may .text ["message", "reason"] ++
    must .text ["status", "type"])

/-- A condition with the time of its last change. -/
def plainCondition : Shape :=
  .record (may .time ["lastTransitionTime"] ++ may .text ["message", "reason"] ++
    must .text ["status", "type"])

def daemonSet : List Field :=
  may (.record (pods ++ may .int32 ["minReadySeconds", "revisionHistoryLimit"] ++
    may replacement ["updateStrategy"])) ["spec"] ++
  may (.record (may .int32 ["collisionCount", "numberAvailable", "numberUnavailable",
      "updatedNumberScheduled"] ++
    must .int32 ["currentNumberScheduled", "desiredNumberScheduled", "numberMisscheduled",
      "numberReady"] ++
    may .int64 ["observedGeneration"] ++ may (.list plainCondition) ["conditions"])) ["status"]

def jobSpec : Shape :=
  .record (may .int64 ["activeDeadlineSeconds"] ++
    may .int32 ["backoffLimit", "completions", "parallelism", "ttlSecondsAfterFinished"] ++
    may .text ["completionMode"] ++ may .bool ["manualSelector", "suspend"] ++
    may labelSelector ["selector"] ++ must podTemplate ["template"])

def job : List Field :=
  let condition : Shape := .record (may .time ["lastProbeTime", "lastTransitionTime"] ++
    may .text ["message", "reason"] ++ must .text ["status", "type"])
  may jobSpec ["spec"] ++
  may (.record (may .int32 ["active", "failed", "ready", "succeeded"] ++
    may .text ["completedIndexes"] ++ may .time ["completionTime", "startTime"] ++
    may (.list condition) ["conditions"] ++
    may (.record (may texts ["failed", "succeeded"])) ["uncountedTerminatedPods"])) ["status"]

def objectReference : Shape :=
  .record (may .text ["apiVersion", "fieldPath", "kind", "name", "namespace", "resourceVersion",
    "uid"])

def cronJob : List Field :=
  may (.record (may .text ["concurrencyPolicy", "timeZone"] ++ must .text ["schedule"] ++
    may .int32 ["failedJobsHistoryLimit", "successfulJobsHistoryLimit"] ++
    may .int64 ["startingDeadlineSeconds"] ++ may .bool ["suspend"] ++
    must (.record (may .metadata ["metadata"] ++ may jobSpec ["spec"])) ["jobTemplate"]))
    ["spec"] ++
  may (.record (may (.list objectReference) ["active"] ++
    may .time ["lastScheduleTime", "lastSuccessfulTime"])) ["status"]

/-! Services -/

def servicePort : Shape :=
  .record (may .text ["appProtocol", "name", "protocol"] ++ may .int32 ["nodePort"] ++
    must .int32 ["port"] ++ may .intOrText ["targetPort"])

def serviceSpec : Shape :=
  .record (may .bool ["allocateLoadBalancerNodePorts", "publishNotReadyAddresses"] ++
    may .text ["clusterIP", "externalName", "externalTrafficPolicy", "internalTrafficPolicy",
      "ipFamilyPolicy", "loadBalancerClass", "loadBalancerIP", "sessionAffinity", "type"] ++
    may texts ["clusterIPs", "externalIPs", "ipFamilies", "loadBalancerSourceRanges"] ++
    may .int32 ["healthCheckNodePort"] ++ may (.list servicePort) ["ports"] ++
    may textMap ["selector"] ++
    may (.record (may (.record (may .int32 ["timeoutSeconds"])) ["clientIP"]))
      ["sessionAffinityConfig"])

def service : List Field :=
  let condition : Shape := .record (must .time ["lastTransitionTime"] ++
    may .int64 ["observedGeneration"] ++ must .text ["message", "reason", "status", "type"])
  let port : Shape :=
    .record (may .text ["error"] ++ must .int32 ["port"] ++ must .text ["protocol"])
  let ingress : Shape := .record (may .text ["hostname", "ip"] ++ may (.list port) ["ports"])
  may serviceSpec ["spec"] ++
  may (.record (may (.list condition) ["conditions"] ++
    may (.record (may (.list ingress) ["ingress"])) ["loadBalancer"])) ["status"]

/-! Settings and rights -/

def secret : List Field :=
  may (.map .bytes) ["data"] ++ may .bool ["immutable"] ++ may textMap ["stringData"] ++
    may .text ["type"]

def configMap : List Field :=
  may (.map .bytes) ["binaryData"] ++ may textMap ["data"] ++ may .bool ["immutable"]

def serviceAccount : List Field :=
  may .bool ["automountServiceAccountToken"] ++ may (.list localReference) ["imagePullSecrets"] ++
    may (.list objectReference) ["secrets"]

def clusterRole : List Field :=
  may (.record (may (.list labelSelector) ["clusterRoleSelectors"])) ["aggregationRule"] ++
  may (.list (.record (may texts ["apiGroups", "nonResourceURLs", "resourceNames", "resources"] ++
    must texts ["verbs"]))) ["rules"]

def clusterRoleBinding : List Field :=
  must (.record (must .text ["apiGroup", "kind", "name"])) ["roleRef"] ++
  may (.list (.record (may .text ["apiGroup", "namespace"] ++ must .text ["kind", "name"])))
    ["subjects"]

end RegistryOperator.Shape
