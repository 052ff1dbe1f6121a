import RegistryOperator.Api.Failure
import RegistryOperator.Cache.Informer
import RegistryOperator.Resource.Deployment
import RegistryOperator.Resource.ImageRegistry

/-! Looking up objects in caches. A cache that did not see a list of all objects yet cannot tell
that an object is not there, so it answers nothing. -/

namespace RegistryOperator

def Informer.lookUp {α : Type} [Resource α] (kind : Kind) (i : Informer α) (key : ObjectKey) :
    Except ListerError (Option α) :=
  if i.synced then .ok ((i.cache.find? key).map (·.object)) else .error (.notSynced kind.name)

/-- The caches that a pass reads. -/
structure Listers where
  /-- The namespace of the operator. -/
  ns : String
  registries : Informer ImageRegistry := {}
  deployments : Informer Deployment := {}

namespace Listers

def registry (l : Listers) (name : String) : Except ListerError (Option ImageRegistry) :=
  l.registries.lookUp ImageRegistry.kind ⟨name, none⟩

/-- The deployment of a given name in the namespace of the operator. -/
def deployment (l : Listers) (name : String) : Except ListerError (Option Deployment) :=
  l.deployments.lookUp Deployment.kind ⟨name, some l.ns⟩

end Listers
end RegistryOperator
