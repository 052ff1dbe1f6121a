import RegistryOperator.Resource.Deployment

/-! Objects of which nothing but the metadata matters, such as config maps. What else they hold is
checked when they are read, and not kept. -/

namespace RegistryOperator

/-- An object of some kind, known by its metadata. -/
structure Plain (kind : Kind) where
  metadata : Metadata := {}
deriving DecidableEq, Inhabited

namespace Plain

variable {kind : Kind}

def reading (others : List Shape.Field) : Reading (Plain kind) :=
  kind.stated <| (fun metadata _ => ⟨metadata.getD {}⟩)
    <$> .nullable "metadata" Metadata.decode <*> Shape.check others

def decode (others : List Shape.Field) : Decoder (Plain kind) := (reading others).decodeObject

instance : Resource (Plain kind) := ⟨Plain.metadata⟩

end Plain

namespace Kind

def service : Kind := ⟨"Service", "", "v1", "services"⟩

def secret : Kind := ⟨"Secret", "", "v1", "secrets"⟩

def serviceAccount : Kind := ⟨"ServiceAccount", "", "v1", "serviceaccounts"⟩

def daemonSet : Kind := ⟨"DaemonSet", "apps", "v1", "daemonsets"⟩

def job : Kind := ⟨"Job", "batch", "v1", "jobs"⟩

def cronJob : Kind := ⟨"CronJob", "batch", "v1", "cronjobs"⟩

def clusterRole : Kind := ⟨"ClusterRole", "rbac.authorization.k8s.io", "v1", "clusterroles"⟩

def clusterRoleBinding : Kind :=
  ⟨"ClusterRoleBinding", "rbac.authorization.k8s.io", "v1", "clusterrolebindings"⟩

end Kind

namespace ConfigMap

def kind : Kind := ⟨"ConfigMap", "", "v1", "configmaps"⟩

def decode : Decoder (Plain kind) := Plain.decode Shape.configMap

end ConfigMap
end RegistryOperator
