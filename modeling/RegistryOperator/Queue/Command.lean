import RegistryOperator.Queue.Dispatch

/-! Work queues under command: everything that can be done to one from outside, as data, so that any
order of doings is a list. Time passes by command only. -/

namespace RegistryOperator

/-- A command to a queue of items of type `α`, for which tasks of type `ι` wait. -/
inductive QueueCommand (α ι : Type)
  | add (x : α)
  | addAfter (x : α) (wait : Duration)
  | addRateLimited (x : α)
  | forget (x : α)
  /-- Someone looks for an item and does not stay. -/
  | glance
  /-- A task begins to wait for an item. -/
  | await (t : ι)
  | done (x : α)
  | shutDown
  | advance (d : Duration)
  /-- The woken tasks look again, and nothing else happens. -/
  | rest
deriving DecidableEq, Repr

/-- What comes of a command. -/
structure QueueOutcome (α ι : Type) where
  /-- What someone got who did not stay. -/
  seen : Option (Backlog.Handout α) := none
  /-- The limiter had no delay. -/
  stuck : Bool := false
  /-- What the tasks got that are done with waiting. -/
  released : List (ι × Backlog.Handout α) := []
  log : Log := []

/-- A queue, those who wait for its items, and the time. -/
structure CommandedQueue (R α ι : Type) where
  dispatch : Dispatch R α ι
  now : Duration := .zero

namespace CommandedQueue

variable {R α ι : Type} [Quantity R] [DecidableEq α] [DecidableEq ι]

/-- The woken tasks look again after a command. -/
def settled (q : CommandedQueue R α ι) (d : Dispatch R α ι) (outcome : QueueOutcome α ι) :
    QueueOutcome α ι × CommandedQueue R α ι :=
  let (released, dispatch) := d.settle
  ({ outcome with released }, { q with dispatch })

/-- Carries out a command on a queue that reports under a name, its items by a text. -/
def perform (name : String) (text : α → String) (q : CommandedQueue R α ι) :
    QueueCommand α ι → QueueOutcome α ι × CommandedQueue R α ι
  | .add x =>
    q.settled (q.dispatch.follow (q.dispatch.queue.add x))
      { log := q.dispatch.queue.addReport name text x }
  | .addAfter x wait =>
    q.settled (q.dispatch.follow (q.dispatch.queue.addAfter q.now x wait))
      { log := q.dispatch.queue.addAfterReport name text x wait }
  | .addRateLimited x =>
    let (wait, queue) := q.dispatch.queue.addRateLimited q.now x
    q.settled (q.dispatch.follow queue)
      { stuck := wait.isNone, log := q.dispatch.queue.addRateLimitedReport name text q.now x }
  | .forget x => q.settled { q.dispatch with queue := q.dispatch.queue.forget x } {}
  | .glance =>
    let (handout, d) := q.dispatch.glance
    q.settled d { seen := some handout }
  | .await t =>
    match q.dispatch.look t with
    | (.nothing, d) => q.settled d {}
    | (handout, dispatch) => ({ released := [(t, handout)] }, { q with dispatch })
  | .done x => q.settled (q.dispatch.follow (q.dispatch.queue.done x)) {}
  | .shutDown => q.settled q.dispatch.shutDown {}
  | .advance d =>
    let now : Duration := ⟨q.now.nanos + d.nanos⟩
    let (released, log, dispatch) := q.dispatch.fireUntil name text now
    ({ released, log }, { dispatch, now })
  | .rest => q.settled q.dispatch {}

end CommandedQueue
end RegistryOperator
