import RegistryOperator.Json.Strings

/-! The changes that lead from one document to another. Children of containers are matched by key,
an index being the key of an array's item: keys on both sides are compared in order, then come those
that only the new document has, then those that only the old one has. -/

namespace RegistryOperator

/-- The key of a child: its place in an array or its name in an object. -/
inductive ChildKey
  | index (n : Nat)
  | name (s : String)
deriving DecidableEq, Repr

namespace ChildKey

/-- Indices in numeric order stand before names in order. -/
def before : ChildKey → ChildKey → Bool
  | .index a, .index b => a ≤ b
  | .index _, .name _ => true
  | .name _, .index _ => false
  | .name a, .name b => a ≤ b

/-- A tilde or a slash in a name, as it stands in a path. -/
def escape (c : Char) : List Char :=
  if c = '~' then ['~', '0'] else if c = '/' then ['~', '1'] else [c]

/-- The step of a path that leads to the child. -/
def step : ChildKey → String
  | .index n => "/" ++ toString n
  | .name s => "/" ++ String.ofList (s.toList.flatMap escape)

/-- The step to an item after `gone` items before it were removed. -/
def stepAfter (gone : Nat) : ChildKey → String
  | .index n => step (.index (n - gone))
  | key => key.step

end ChildKey

/-- One change of a document, at a path. -/
inductive Change
  | add (path : String) (value : Json)
  | remove (path : String)
  | replace (path : String) (value : Json)
deriving DecidableEq, Repr

namespace Change

def path : Change → String
  | .add path _ => path
  | .remove path => path
  | .replace path _ => path

def line : Change → String
  | .add path value => "add " ++ path ++ ": " ++ value.text
  | .remove path => "remove " ++ path
  | .replace path value => "replace " ++ path ++ ": " ++ value.text

end Change

namespace Json

/-- The items of an array with their keys, counted from `n`. -/
def itemChildren (n : Nat) : List Json → List (ChildKey × Json)
  | [] => []
  | item :: rest => (.index n, item) :: itemChildren (n + 1) rest

/-- The children of a container; a scalar is none. -/
def children? : Json → Option (List (ChildKey × Json))
  | .arr items => some (itemChildren 0 items)
  | .obj members => some (members.map fun (name, value) => (.name name, value))
  | _ => none

def child? (key : ChildKey) : List (ChildKey × Json) → Option Json
  | [] => none
  | (k, value) :: rest => if k = key then some value else child? key rest

def inOrder (children : List (ChildKey × Json)) : List (ChildKey × Json) :=
  children.mergeSort fun a b => a.1.before b.1

/-- The additions of children that are new. -/
def additions (path : String) (children : List (ChildKey × Json)) : List Change :=
  children.map fun (key, value) => .add (path ++ key.step) value

/-- The removals of children that are gone. Items before an item that went first move it forward. -/
def removals (path : String) : Nat → List (ChildKey × Json) → List Change
  | _, [] => []
  | gone, (key, _) :: rest =>
    let after := match key with
      | .index _ => gone + 1
      | .name _ => gone
    .remove (path ++ key.stepAfter gone) :: removals path after rest

/-- Changes of children in the order of the children's keys. -/
def changesInOrder (changed : List (ChildKey × List Change)) : List Change :=
  (changed.mergeSort fun a b => a.1.before b.1).flatMap (·.2)

/-- The changes of a container: those of the children on both sides, then what came, then what
went. -/
def containerChanges (path : String) (before after : List (ChildKey × Json))
    (common : List (ChildKey × List Change)) : List Change :=
  changesInOrder common ++
    additions path ((inOrder after).filter fun (key, _) => (child? key before).isNone) ++
    removals path 0 ((inOrder before).filter fun (key, _) => (child? key after).isNone)

mutual

/-- The changes at `path` that lead from the second document to the first. -/
def changesTo : Json → String → Json → List Change
  | .arr items, path, old =>
    if old.same (.arr items) then []
    else
      match old.children? with
      | none => [.replace path (.arr items)]
      | some before =>
        containerChanges path before (itemChildren 0 items) (itemChanges items 0 path before)
  | .obj members, path, old =>
    if old.same (.obj members) then []
    else
      match old.children? with
      | none => [.replace path (.obj members)]
      | some before =>
        containerChanges path before (members.map fun (name, value) => (.name name, value))
          (memberChanges members path before)
  | new, path, old => if old.same new then [] else [.replace path new]

/-- The changes of the items that were there before, counted from `n`. -/
def itemChanges : List Json → Nat → String → List (ChildKey × Json) →
    List (ChildKey × List Change)
  | [], _, _, _ => []
  | item :: rest, n, path, before =>
    let others := itemChanges rest (n + 1) path before
    match child? (.index n) before with
    | some was => (.index n, changesTo item (path ++ (ChildKey.index n).step) was) :: others
    | none => others

/-- The changes of the members that were there before. -/
def memberChanges : List (String × Json) → String → List (ChildKey × Json) →
    List (ChildKey × List Change)
  | [], _, _ => []
  | (name, value) :: rest, path, before =>
    let others := memberChanges rest path before
    match child? (.name name) before with
    | some was => (.name name, changesTo value (path ++ (ChildKey.name name).step) was) :: others
    | none => others

end

/-- The changes that lead from `old` to `new`. -/
def changes (old new : Json) : List Change := changesTo new "" old

/-- Lines in the order of their paths, and of their texts where the paths are equal. -/
def lineBefore (a b : Change) : Bool :=
  a.path < b.path || (a.path = b.path && a.line ≤ b.line)

/-- The text of the changes that lead from `old` to `new`, a line for each in the order of paths. -/
def describeChanges (old new : Json) : String :=
  "\n".intercalate (((changes old new).mergeSort lineBefore).map Change.line)

end Json
end RegistryOperator
