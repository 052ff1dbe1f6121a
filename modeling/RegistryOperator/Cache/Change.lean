import RegistryOperator.Cache.Basic

/-! What a watch reports about the objects of a kind, how it changes a cache, and how the change is
told to others. A change is told with the cache as it was before, so that an update can be told from
an addition, and a disappearance with the state that was last seen. -/

namespace RegistryOperator

/-- An event of a watch. -/
inductive WatchEvent (α : Type)
  /-- The object was added or changed. -/
  | applied (x : α)
  | deleted (x : α)
  /-- These are all objects. -/
  | restarted (xs : List α)

/-- A change of a cache as it is told to others. -/
inductive Notification (α : Type)
  | added (new : α)
  | updated (old new : α)
  | deleted (last : α)
  /-- The object disappeared unseen. What was last seen of it may be unknown. -/
  | vanished (key : String) (last : Option α)

namespace WatchEvent

variable {α : Type} [Resource α]

/-- The event with the keys of its objects; none if an object has no name. -/
def keyed? : WatchEvent α → Option (WatchEvent (Entry α))
  | .applied x => (Entry.of? x).map .applied
  | .deleted x => (Entry.of? x).map .deleted
  | .restarted xs => (Entry.all? xs).map .restarted

end WatchEvent

namespace Cache

variable {α : Type} [Resource α]

def apply (c : Cache α) : WatchEvent (Entry α) → Cache α
  | .applied e => c.insert e
  | .deleted e => c.erase e.key
  | .restarted es => ofList es

def presence (c : Cache α) (e : Entry α) : Notification α :=
  match c.find? e.key with
  | some old => .updated old.object e.object
  | none => .added e.object

/-- The entries that a list of all objects lacks. -/
def missingFrom (c : Cache α) (es : List (Entry α)) : List (Entry α) :=
  c.entries.filter fun e => !es.any (·.key = e.key)

/-- How an event is told, given the cache before it. -/
def notifications (kind : Kind) (c : Cache α) : WatchEvent (Entry α) → List (Notification α)
  | .applied e => [c.presence e]
  | .deleted e => [.deleted e.object]
  | .restarted es =>
    es.map c.presence ++
      (c.missingFrom es).map fun e => .vanished (e.key.text kind) (some e.object)

/-- The cache told as updates that change nothing. -/
def replay (c : Cache α) : List (Notification α) :=
  c.entries.map fun e => .updated e.object e.object

end Cache
end RegistryOperator
