import RegistryOperator.Api.RegistryStore
import RegistryOperator.Api.Script

/-! The registry as the API server has it. Every accepted change gives the object a version that it
never had before. A write that is based on another version than the stored one is refused; a write
of metadata and spec leaves the status alone, and a write of the status leaves all else alone. An
object that is to be deleted is gone as soon as it has no finalizers. -/

namespace RegistryOperator

/-- What is stored, and the version given last. -/
structure Cluster where
  registry : Option ImageRegistry := none
  version : Nat := 100

namespace Cluster

def next (c : Cluster) : Nat := c.version + 1

def stamp (c : Cluster) (r : ImageRegistry) : ImageRegistry :=
  { r with metadata := { r.metadata with resourceVersion := some (toString c.next) } }

def regenerate (r : ImageRegistry) : ImageRegistry :=
  { r with metadata := { r.metadata with generation := some (r.metadata.specGeneration + 1) } }

/-- The stored object, if a write of `r` is based on its version. -/
def current (c : Cluster) (r : ImageRegistry) : Except ApiFailure ImageRegistry :=
  match c.registry with
  | none => .error (refuse 404 "NotFound")
  | some stored =>
    if stored.metadata.resourceVersion = r.metadata.resourceVersion then .ok stored
    else .error (refuse 409 "Conflict")

def create (c : Cluster) (r : ImageRegistry) : Except ApiFailure ImageRegistry × Cluster :=
  match c.registry with
  | some _ => (.error (refuse 409 "AlreadyExists"), c)
  | none =>
    let r := c.stamp { r with metadata := { r.metadata with generation := some 1 } }
    (.ok r, ⟨some r, c.next⟩)

/-- The stored object with the spec and the finalizers of `r`. -/
def merged (stored r : ImageRegistry) : ImageRegistry :=
  let stored := if stored.spec = r.spec then stored else regenerate stored
  { stored with
    spec := r.spec
    metadata := { stored.metadata with finalizers := r.metadata.finalizers } }

def update (c : Cluster) (r : ImageRegistry) : Except ApiFailure ImageRegistry × Cluster :=
  match c.current r with
  | .error e => (.error e, c)
  | .ok stored =>
    let r := c.stamp (merged stored r)
    let gone := r.metadata.isDeleteRequested && !r.metadata.hasFinalizers
    (.ok r, ⟨if gone then none else some r, c.next⟩)

def updateStatus (c : Cluster) (r : ImageRegistry) : Except ApiFailure ImageRegistry × Cluster :=
  match c.current r with
  | .error e => (.error e, c)
  | .ok stored =>
    let r := c.stamp { stored with status := r.status }
    (.ok r, ⟨some r, c.next⟩)

def write (c : Cluster) (w : Write) (r : ImageRegistry) :
    Except StoreError ImageRegistry × Cluster :=
  let (result, c) := match w with
    | .create => c.create r
    | .update => c.update r
    | .updateStatus => c.updateStatus r
  (result.mapError (.ofFailure w.word r.name), c)

/-- Someone else changes the object, if there is one. The version is used up in any case. -/
def edit (c : Cluster) (f : ImageRegistry → ImageRegistry) : Cluster :=
  ⟨c.registry.map fun r => c.stamp (f r), c.next⟩

/-- Someone else puts an object in place of what is stored. -/
def put (c : Cluster) (r : ImageRegistry) : Cluster := ⟨some (c.stamp r), c.next⟩

end Cluster
end RegistryOperator
