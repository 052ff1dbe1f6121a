import RegistryOperator.Queue.WorkQueue

/-! Tasks that wait for an item of a work queue. A task that finds nothing registers. Each item that
becomes ready wakes the task that is registered longest, or is noted down as one wake-up in store if
no task is; the shutdown wakes all. A woken task looks again in its turn, and may find that someone
else was faster. -/

namespace RegistryOperator

/-- A work queue and the tasks that wait for its items. -/
structure Dispatch (R α ι : Type) where
  queue : WorkQueue R α
  /-- The registered tasks, the longest registered first. -/
  waiting : List ι := []
  /-- The tasks that were woken and did not look again yet. -/
  woken : List ι := []
  /-- Whether a wake-up is in store. -/
  stored : Bool := false

namespace Dispatch

variable {R α ι : Type} [Quantity R] [DecidableEq α] [DecidableEq ι]

/-- Wakes the task that is registered longest. -/
def wakeOne (d : Dispatch R α ι) : Dispatch R α ι :=
  match d.waiting with
  | [] => { d with stored := true }
  | t :: rest => { d with waiting := rest, woken := d.woken ++ [t] }

def wakeAll (d : Dispatch R α ι) : Dispatch R α ι :=
  { d with waiting := [], woken := d.woken ++ d.waiting }

/-- The dispatch after the queue changed. One more item that is ready wakes one task. -/
def follow (d : Dispatch R α ι) (queue : WorkQueue R α) : Dispatch R α ι :=
  let changed := { d with queue }
  if d.queue.length < queue.length then changed.wakeOne else changed

def shutDown (d : Dispatch R α ι) : Dispatch R α ι :=
  { d with queue := d.queue.shutDown }.wakeAll

/-- A task looks for an item, using up the wake-up in store. If it finds none, it registers. -/
def look (d : Dispatch R α ι) (t : ι) : Backlog.Handout α × Dispatch R α ι :=
  let (handout, queue) := d.queue.take
  let d := { d with queue, stored := false }
  match handout with
  | .nothing => (.nothing, { d with waiting := d.waiting ++ [t] })
  | other => (other, d)

/-- A task gives up. If it was woken, the wake-up goes to the next one. -/
def leave (d : Dispatch R α ι) (t : ι) : Dispatch R α ι :=
  if t ∈ d.woken then { d with woken := d.woken.erase t }.wakeOne
  else { d with waiting := d.waiting.erase t }

/-- Someone looks for an item and does not stay. -/
def glance (d : Dispatch R α ι) : Backlog.Handout α × Dispatch R α ι :=
  let (handout, queue) := d.queue.take
  (handout, { d with queue, stored := false })

/-- The task that was woken first looks again. -/
def resume (d : Dispatch R α ι) : Option (ι × Backlog.Handout α × Dispatch R α ι) :=
  match d.woken with
  | [] => none
  | t :: rest =>
    let (handout, d) := { d with woken := rest }.look t
    some (t, handout, d)

/-- All woken tasks look again, in their turn. What they got is listed for those who got
something. -/
def settle (d : Dispatch R α ι) : List (ι × Backlog.Handout α) × Dispatch R α ι :=
  go d.woken.length d
where
  /-- So many woken tasks look again. -/
  go : Nat → Dispatch R α ι → List (ι × Backlog.Handout α) × Dispatch R α ι
    | 0, d => ([], d)
    | n + 1, d =>
      match d.resume with
      | none => ([], d)
      | some (_, .nothing, d) => go n d
      | some (t, handout, d) =>
        let (others, d) := go n d
        ((t, handout) :: others, d)

/-- Adds the items that come until a millisecond, at most `fuel` of them. The woken tasks look again
when all items of one millisecond are added. -/
def fireFor (name : String) (text : α → String) (limit : Nat) :
    Nat → Dispatch R α ι → List (ι × Backlog.Handout α) × Log × Dispatch R α ι
  | 0, d => ([], [], d)
  | fuel + 1, d =>
    match d.queue.nextDue with
    | none => ([], [], d)
    | some due =>
      if due ≤ limit then
        let report := d.queue.fireReport name text
        let d := d.follow d.queue.fire
        let (first, d) := if d.queue.nextDue = some due then ([], d) else d.settle
        let (others, reports, d) := fireFor name text limit fuel d
        (first ++ others, report ++ reports, d)
      else ([], [], d)

/-- Adds the items that come until a moment; what the tasks got, what is reported, and what is
left. -/
def fireUntil (name : String) (text : α → String) (d : Dispatch R α ι) (now : Duration) :
    List (ι × Backlog.Handout α) × Log × Dispatch R α ι :=
  fireFor name text now.ceilMillis d.queue.delayed.length d

end Dispatch
end RegistryOperator
