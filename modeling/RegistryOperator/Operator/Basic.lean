import RegistryOperator.Cache.Lister
import RegistryOperator.Config.Basic
import RegistryOperator.Operator.Source
import RegistryOperator.Reconcile.Worker

/-! The operator as a whole: a task for each source, the queue that all of them fill, and the worker
that empties it. The worker starts when every source has been listed. A request to shut down closes
the queue; a pass that is under way goes on to its end, and then the operator ends. Each definition
below is one thing that can happen; one that cannot happen in a state leaves it as it is. -/

namespace RegistryOperator

/-- Why the operator ends with an error. -/
inductive OperatorError
  | config (e : ConfigError)
  /-- A task ended before its source was listed. -/
  | cacheSync
deriving DecidableEq, Repr

namespace OperatorError

def kind : OperatorError → String
  | .config _ => "Config"
  | .cacheSync => "CacheSync"

def message : OperatorError → String
  | .config e => s!"Invalid configuration: {e.message}"
  | .cacheSync => "Informer caches stopped before their initial list completed"

end OperatorError

/-- How far the operator is. -/
inductive OperatorPhase
  /-- It waits for the lists of all sources. -/
  | waiting
  | working
  /-- It was asked to shut down and waits for the worker. -/
  | closing
  | ended (result : Except OperatorError Unit)
  /-- It failed at once, since there is no delay for the first trigger. -/
  | failed

/-- The operator. -/
structure Operator (R : Type) where
  /-- Where the objects live that the registry needs, and which image they run. -/
  dependents : Dependents
  bootstrapSpec : RegistrySpec
  queue : WorkQueue R Trigger
  tasks : (s : Source) → WatchTask s.Object := fun _ => {}
  phase : OperatorPhase := .waiting
  worker : WorkerState := .absent

namespace Operator

variable {R : Type} [Quantity R]

/-- Starts the operator. The first trigger is due soon, even if nothing changes. -/
def start (dependents : Dependents) (bootstrapSpec : Except ConfigError RegistrySpec)
    (limiter : Limiter R Trigger) : Operator R :=
  match bootstrapSpec with
  | .error e =>
    { dependents, bootstrapSpec := {}, queue := { limiter }, phase := .ended (.error (.config e)) }
  | .ok bootstrapSpec =>
    match Worker.seed { limiter } .zero with
    | (none, queue) => { dependents, bootstrapSpec, queue, phase := .failed }
    | (some _, queue) => { dependents, bootstrapSpec, queue }

def isEnded (o : Operator R) : Bool := o.phase matches .ended _ | .failed

/-- The tasks with another one for a source. -/
def withTask (o : Operator R) (s : Source) (t : WatchTask s.Object) :
    (s : Source) → WatchTask s.Object :=
  fun s' => if h : s = s' then h ▸ t else o.tasks s'

/-- A signal comes for a task at a millisecond. -/
def receive (o : Operator R) (s : Source) (now : Nat) (signal : WatchSignal) : Operator R :=
  if o.isEnded then o
  else
    let (t, queue, _) := (o.tasks s).receive (s.plan o.dependents.ns) o.queue now signal
    { o with queue, tasks := o.withTask s t }

def fire (o : Operator R) : Operator R := { o with queue := o.queue.fire }

def isSynced (o : Operator R) (s : Source) : Bool := (o.tasks s).informer.synced

/-- Whether nothing is left to wait for: each source has been listed, or its task has ended. -/
def isResolved (o : Operator R) : Bool := Source.all.all fun s => o.isSynced s || (o.tasks s).ended

/-- The wait for the lists is over, if nothing is left to wait for. -/
def noticeLists (o : Operator R) : Operator R :=
  match o.phase with
  | .waiting =>
    if o.isResolved then
      if Source.all.all o.isSynced then { o with phase := .working, worker := .idle }
      else { o with phase := .ended (.error .cacheSync), queue := o.queue.shutDown }
    else o
  | _ => o

def shutDown (o : Operator R) : Operator R :=
  match o.phase with
  | .waiting => { o with phase := .ended (.ok ()), queue := o.queue.shutDown }
  | .working => { o with phase := .closing, queue := o.queue.shutDown }
  | _ => o

def take (o : Operator R) : Operator R :=
  let (worker, queue) := o.worker.take o.bootstrapSpec o.queue
  { o with worker, queue }

def listers (o : Operator R) : Listers where
  ns := o.dependents.ns
  registries := (o.tasks .registries).informer
  deployments := (o.tasks .deployments).informer

def finish (o : Operator R) (now : Duration) : Operator R :=
  let (worker, queue) := o.worker.finish now o.queue
  { o with worker, queue }

/-- The worker is gone, and the operator ends. -/
def close (o : Operator R) : Operator R :=
  match o.phase, o.worker with
  | .closing, .finished | .closing, .crashed => { o with phase := .ended (.ok ()) }
  | _, _ => o

end Operator

/-- Starts the operator with its settings. -/
def OperatorConfig.start (c : OperatorConfig) : Operator Float :=
  .start ⟨c.ns, c.registryImage⟩ c.bootstrapSpec (c.backoff.limiter .zero)

end RegistryOperator
