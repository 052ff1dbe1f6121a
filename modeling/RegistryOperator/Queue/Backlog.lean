/-! The items that wait for work. An item waits at most once, however often it is added, and is in
the hands of at most one worker: added while it is worked on, it is only marked, and waits again
when the worker is done with it. After the shutdown nothing is taken in or given out. -/

namespace RegistryOperator

/-- Which items wait for work and which are worked on. -/
structure Backlog (α : Type) where
  /-- The items to be given out, in their order. -/
  ready : List α := []
  /-- The items that were added since they were last given out. -/
  dirty : List α := []
  /-- The items that were given out and not returned. -/
  processing : List α := []
  shuttingDown : Bool := false
deriving DecidableEq, Repr

namespace Backlog

variable {α : Type} [DecidableEq α]

/-- Whether adding an item changes anything. -/
def admits (b : Backlog α) (x : α) : Bool := !b.shuttingDown && x ∉ b.dirty

def add (b : Backlog α) (x : α) : Backlog α :=
  if b.admits x then
    if x ∈ b.processing then { b with dirty := x :: b.dirty }
    else { b with dirty := x :: b.dirty, ready := b.ready ++ [x] }
  else b

/-- What a worker that asks for an item gets. -/
inductive Handout (α : Type)
  | item (x : α)
  | nothing
  | shutDown
deriving DecidableEq, Repr

def take (b : Backlog α) : Handout α × Backlog α :=
  if b.shuttingDown then (.shutDown, b)
  else
    match b.ready with
    | [] => (.nothing, b)
    | x :: rest =>
      (.item x,
        { b with ready := rest, dirty := b.dirty.erase x, processing := x :: b.processing.erase x })

def done (b : Backlog α) (x : α) : Backlog α :=
  let b := { b with processing := b.processing.erase x }
  if x ∈ b.dirty ∧ !b.shuttingDown then { b with ready := b.ready ++ [x] } else b

def shutDown (b : Backlog α) : Backlog α := { b with shuttingDown := true }

end Backlog
end RegistryOperator
