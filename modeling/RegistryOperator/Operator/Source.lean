import RegistryOperator.Resource.ClusterOperator
import RegistryOperator.Resource.ConfigMap
import RegistryOperator.Resource.ImageRegistry
import RegistryOperator.Watch.Task

/-! What the operator watches: the registry itself, and every kind of object that takes part in
running it. Each source has objects of its own type; of most of them only the metadata matters,
since any change leads to one and the same trigger. -/

namespace RegistryOperator

/-- What the operator watches, in the order in which it starts to. -/
inductive Source
  | registries
  | clusterOperators
  | deployments
  | daemonSets
  | services
  | secrets
  | configMaps
  | serviceAccounts
  | jobs
  | cronJobs
  | clusterRoles
  | clusterRoleBindings
  /-- The config maps that users write for the cluster. -/
  | clusterConfigMaps
  /-- The config maps of the system, among them that of the installer. -/
  | systemConfigMaps
deriving DecidableEq, Repr

namespace Source

def all : List Source :=
  [.registries, .clusterOperators, .deployments, .daemonSets, .services, .secrets, .configMaps,
    .serviceAccounts, .jobs, .cronJobs, .clusterRoles, .clusterRoleBindings, .clusterConfigMaps,
    .systemConfigMaps]

theorem mem_all (s : Source) : s ∈ all := by cases s <;> decide

def kind : Source → Kind
  | .registries => ImageRegistry.kind
  | .clusterOperators => ClusterOperator.kind
  | .deployments => Deployment.kind
  | .daemonSets => .daemonSet
  | .services => .service
  | .secrets => .secret
  | .configMaps | .clusterConfigMaps | .systemConfigMaps => ConfigMap.kind
  | .serviceAccounts => .serviceAccount
  | .jobs => .job
  | .cronJobs => .cronJob
  | .clusterRoles => .clusterRole
  | .clusterRoleBindings => .clusterRoleBinding

/-- The namespace of the cluster's own settings. -/
def clusterConfigNamespace : String := "openshift-config"

def systemNamespace : String := "kube-system"

/-- The config map in which the installer says how the cluster was set up. -/
def installerConfigName : String := "cluster-config-v1"

/-- The system's namespace is shared with others; only what the installer says matters there. -/
def sharedNamespaces : SharedNamespaces := ⟨[(systemNamespace, installerConfigName)]⟩

/-- The namespace of the objects, for an operator in a given one; none if they are of all
namespaces. -/
def ns (own : String) : Source → Option String
  | .registries | .clusterOperators | .clusterRoles | .clusterRoleBindings => none
  | .clusterConfigMaps => some clusterConfigNamespace
  | .systemConfigMaps => some systemNamespace
  | _ => some own

/-- The kind with its name in messages, and the only object of it that matters. -/
def watched (s : Source) : WatchedKind where
  name := s.kind.name
  onlyName := match s with
    | .clusterOperators => some ClusterOperator.registryName
    | _ => none

abbrev Object : Source → Type
  | .registries => ImageRegistry
  | .clusterOperators => ClusterOperator
  | .deployments => Deployment
  | s => Plain s.kind

abbrev metadata : (s : Source) → s.Object → Metadata
  | .registries => ImageRegistry.metadata
  | .clusterOperators => ClusterOperator.metadata
  | .deployments => Deployment.metadata
  | .daemonSets | .services | .secrets | .configMaps | .serviceAccounts | .jobs | .cronJobs
  | .clusterRoles | .clusterRoleBindings | .clusterConfigMaps | .systemConfigMaps => Plain.metadata

instance (s : Source) : Resource s.Object := ⟨s.metadata⟩

def decode : (s : Source) → Decoder s.Object
  | .registries => ImageRegistry.decode
  | .clusterOperators => ClusterOperator.decode
  | .deployments => Deployment.decode
  | .daemonSets => Plain.decode Shape.daemonSet
  | .services => Plain.decode Shape.service
  | .secrets => Plain.decode Shape.secret
  | .configMaps | .clusterConfigMaps | .systemConfigMaps => ConfigMap.decode
  | .serviceAccounts => Plain.decode Shape.serviceAccount
  | .jobs => Plain.decode Shape.job
  | .cronJobs => Plain.decode Shape.cronJob
  | .clusterRoles => Plain.decode Shape.clusterRole
  | .clusterRoleBindings => Plain.decode Shape.clusterRoleBinding

/-- The plan of the task that watches a source. -/
def plan (own : String) (s : Source) : WatchPlan s.Object where
  scope := ⟨s.kind, s.ns own, s.watched.onlyName⟩
  decode := s.decode
  funnel := ⟨s.watched, sharedNamespaces⟩

end Source
end RegistryOperator
