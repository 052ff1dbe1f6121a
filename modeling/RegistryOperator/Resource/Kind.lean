import RegistryOperator.Resource.Metadata

/-! Kinds of objects and the keys of objects within a kind. -/

namespace RegistryOperator

/-- A kind of object and where its collection is served. -/
structure Kind where
  name : String
  group : String
  version : String
  plural : String
deriving DecidableEq, Repr

namespace Kind

/-- The group and version, as in an object's `apiVersion`. The core group has no name. -/
def apiVersion (k : Kind) : String :=
  if k.group = "" then k.version else k.group ++ "/" ++ k.version

/-- The path of the collection: of one namespace, or of the whole cluster. -/
def path (k : Kind) (ns : Option String) : String :=
  let base := if k.group = "" then "/api/" ++ k.version else "/apis/" ++ k.group ++ "/" ++ k.version
  match ns with
  | some ns => base ++ "/namespaces/" ++ ns ++ "/" ++ k.plural
  | none => base ++ "/" ++ k.plural

end Kind

/-- The key of an object among those of its kind. -/
structure ObjectKey where
  name : String
  ns : Option String
deriving DecidableEq, Repr

namespace ObjectKey

/-- The key of an object; one without a name has none. -/
def of? (m : Metadata) : Option ObjectKey := m.name.map (⟨·, m.ns⟩)

/-- The key of the object of the same name outside all namespaces. -/
def withoutNamespace (k : ObjectKey) : ObjectKey := ⟨k.name, none⟩

def text (kind : Kind) (k : ObjectKey) : String :=
  kind.name ++ "." ++ kind.version ++ "." ++ kind.group ++ "/" ++ k.name ++
    (match k.ns with
      | some ns => "." ++ ns
      | none => "")

end ObjectKey

/-- Objects of the cluster. -/
class Resource (α : Type) where
  metadata : α → Metadata

end RegistryOperator
