import RegistryOperator.Reconcile.Pass
import RegistryOperator.Trigger.Funnel

/-! The worker that runs passes. A trigger that it takes from the queue starts a pass. A pass that
succeeded clears the count of failures; one that failed is tried again as late as the limiter says.
In both cases the trigger goes back to the queue, where it may have been added again meanwhile. -/

namespace RegistryOperator
namespace Worker

variable {L : Type} [RateLimiter L Trigger]

/-- The queue after a pass. If the limiter has no delay for the next try the worker stops, and the
trigger does not go back. -/
def settle (q : RateLimitedQueue L Trigger) (now : Duration) :
    Except PassError Unit → Option Duration × RateLimitedQueue L Trigger
  | .ok () => (some .zero, (q.forget .changes).done .changes)
  | .error _ =>
    match q.addRateLimited now .changes with
    | (none, q) => (none, q)
    | (some wait, q) => (some wait, q.done .changes)

/-- What is reported when a trigger was taken. -/
def startReport : Log := [⟨.debug, "get event from workqueue"⟩]

def settleReport (q : RateLimitedQueue L Trigger) (now : Duration) : Except PassError Unit → Log
  | .ok () => [⟨.info, "event from workqueue successfully processed"⟩]
  | .error e =>
    ⟨if e.isConflict then .debug else .error, s!"unable to sync: {e.message}, requeuing"⟩ ::
      q.addRateLimitedReport Trigger.queueName Trigger.text now .changes

/-- What is reported when the queue is shut down and the worker stops. -/
def stopReport : Log := [⟨.info, s!"{Trigger.queueName} processor stopped"⟩]

/-- The queue at the start: the first pass is due even if nothing changes. -/
def seed (q : RateLimitedQueue L Trigger) (now : Duration) :
    Option Duration × RateLimitedQueue L Trigger :=
  q.addRateLimited now .changes

end Worker

/-- What a worker does. -/
inductive WorkerState
  /-- It is not there yet. -/
  | absent
  /-- It waits for a trigger. -/
  | idle
  /-- It runs a pass, of which this is left. -/
  | busy (rest : PassProgram (Except PassError Unit))
  /-- It found the queue closed. -/
  | finished
  /-- It had no delay for the next try. -/
  | crashed

namespace WorkerState

variable {L : Type} [RateLimiter L Trigger]

def take (bootstrapSpec : RegistrySpec) (w : WorkerState) (q : RateLimitedQueue L Trigger) :
    WorkerState × RateLimitedQueue L Trigger :=
  match w with
  | .idle =>
    match q.take with
    | (.item _, q) => (.busy (Pass.pass bootstrapSpec), q)
    | (.shutDown, q) => (.finished, q)
    | (.nothing, q) => (.idle, q)
  | w => (w, q)

/-- The pass of a worker comes to its end. -/
def finish (now : Duration) (w : WorkerState) (q : RateLimitedQueue L Trigger) :
    WorkerState × RateLimitedQueue L Trigger :=
  match w with
  | .busy (.done result) =>
    match Worker.settle q now result with
    | (none, q) => (.crashed, q)
    | (some _, q) => (.idle, q)
  | w => (w, q)

end WorkerState
end RegistryOperator
