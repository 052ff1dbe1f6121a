import RegistryOperator.Resource.Kind

/-! Caches of the objects of one kind, each object at its key. -/

namespace RegistryOperator

/-- An object together with its key. -/
structure Entry (α : Type) [Resource α] where
  key : ObjectKey
  object : α
  named : ObjectKey.of? (Resource.metadata object) = some key

namespace Entry

variable {α : Type} [Resource α]

/-- The entry of an object; one without a name has none. -/
def of? (x : α) : Option (Entry α) :=
  match h : ObjectKey.of? (Resource.metadata x) with
  | some key => some ⟨key, x, h⟩
  | none => none

/-- The entries of objects that all have a name. -/
def all? : List α → Option (List (Entry α))
  | [] => some []
  | x :: rest =>
    match of? x, all? rest with
    | some e, some es => some (e :: es)
    | _, _ => none

def metadata (e : Entry α) : Metadata := Resource.metadata e.object

def version (e : Entry α) : Option String := e.metadata.resourceVersion

end Entry

/-- The objects of one kind, no two at the same key. -/
structure Cache (α : Type) [Resource α] where
  entries : List (Entry α) := []

namespace Cache

variable {α : Type} [Resource α]

def get? (c : Cache α) (key : ObjectKey) : Option (Entry α) := c.entries.find? (·.key = key)

/-- The entry at a key, or else at the key of the same name outside all namespaces. -/
def find? (c : Cache α) (key : ObjectKey) : Option (Entry α) :=
  (c.get? key).or (c.get? key.withoutNamespace)

/-- Puts an entry among others, in place of the one at its key. -/
def insertEntry (e : Entry α) : List (Entry α) → List (Entry α)
  | [] => [e]
  | other :: rest => if other.key = e.key then e :: rest else other :: insertEntry e rest

def insert (c : Cache α) (e : Entry α) : Cache α := ⟨insertEntry e c.entries⟩

def erase (c : Cache α) (key : ObjectKey) : Cache α := ⟨c.entries.filter (·.key ≠ key)⟩

/-- The cache of a list of entries, later ones winning. -/
def ofList (entries : List (Entry α)) : Cache α := entries.foldl insert {}

end Cache
end RegistryOperator
