import RegistryOperator.Cluster.Store
import RegistryOperator.Reconcile.Worker

/-! A world in which passes run: a cluster, what the caches show of it, how the objects that a
registry needs fare, what goes wrong, and what happens in the middle of a pass. Time stands still
unless it is moved. -/

namespace RegistryOperator

/-- What the cache shows of the registry. -/
inductive CacheView
  /-- What is stored. -/
  | live
  /-- Nothing, whatever is stored. -/
  | missing
  | unsynced
  /-- What was stored when the view was frozen. -/
  | frozen (r : Option ImageRegistry)

/-- What can be done to the objects that a registry needs. -/
inductive DependentCall
  | apply
  | remove
  | finalize
deriving DecidableEq, Repr

def DependentCall.word : DependentCall → String
  | .apply => "apply"
  | .remove => "remove"
  | .finalize => "finalize"

/-- How a call fares. -/
inductive CallOutcome
  | fine
  /-- The objects are asked to go but still there. -/
  | pending
  | failed (e : GeneratorError)

/-- What can happen in a world. -/
inductive Deed
  /-- The trigger is added. -/
  | add
  /-- The failures are forgotten. -/
  | forget
  | shutDown
  /-- A change is told to the funnel. -/
  | notify (f : Funnel) (n : Notification Metadata)
  | setDeployment (d : Option Deployment)
  /-- The next write of a kind fails. -/
  | failWrite (w : Write) (e : ApiFailure)
  /-- From now on a call fares like this. -/
  | setOutcome (call : DependentCall) (outcome : CallOutcome)
  /-- During the next call these deeds are done. -/
  | duringCall (deeds : List Deed)
  | showRegistry (view : CacheView)
  /-- The view of the registry is frozen. -/
  | freezeRegistry
  | showDeployment (synced : Bool)
  | putRegistry (r : ImageRegistry)
  | deleteRegistry
  | editRegistry (f : ImageRegistry → ImageRegistry)
  /-- An edit comes to nothing, but uses up a version. -/
  | failEdit

/-- A world. -/
structure World (R : Type) where
  cluster : Cluster := {}
  deployment : Option Deployment := none
  bootstrapSpec : RegistrySpec := {}
  queue : WorkQueue R Trigger
  now : Duration := .zero
  readings : Readings
  failures : List (Write × ApiFailure) := []
  outcomes : DependentCall → CallOutcome := fun _ => .fine
  pending : List Deed := []
  registryView : CacheView := .live
  deploymentSynced : Bool := true
  /-- The calls and the writes made, each write with the version it was based on and what came of
  it. -/
  calls : List DependentCall := []
  writes : List (Write × Option String × Option StoreError) := []
  log : Log := []

namespace World

variable {R : Type} [Quantity R]

def report (w : World R) (log : Log) : World R := { w with log := w.log ++ log }

def act (w : World R) : Deed → World R
  | .add =>
    { w.report (w.queue.addReport Trigger.queueName Trigger.text .changes) with
      queue := w.queue.add .changes }
  | .forget => { w with queue := w.queue.forget .changes }
  | .shutDown => { w with queue := w.queue.shutDown }
  | .notify f n => { w.report (f.report w.queue n) with queue := f.handle w.queue n }
  | .setDeployment deployment => { w with deployment }
  | .failWrite write e => { w with failures := w.failures ++ [(write, e)] }
  | .setOutcome call outcome =>
    { w with outcomes := fun c => if c = call then outcome else w.outcomes c }
  | .duringCall pending => { w with pending }
  | .showRegistry registryView => { w with registryView }
  | .freezeRegistry => { w with registryView := .frozen w.cluster.registry }
  | .showDeployment deploymentSynced => { w with deploymentSynced }
  | .putRegistry r => { w with cluster := w.cluster.put r }
  | .deleteRegistry => { w with cluster := { w.cluster with registry := none } }
  | .editRegistry f => { w with cluster := w.cluster.edit f }
  | .failEdit => { w with cluster := { w.cluster with version := w.cluster.next } }

/-- Records a call and lets happen what happens during it. -/
def call (w : World R) (c : DependentCall) : CallOutcome × World R :=
  let w := w.pending.foldl act { w with calls := w.calls ++ [c], pending := [] }
  (w.outcomes c, w)

def named (name : String) (r : Option ImageRegistry) : Option ImageRegistry :=
  r.filter (·.name = name)

/-- What the cache shows of the registry. -/
def lookUp (w : World R) (name : String) : Except ListerError (Option ImageRegistry) :=
  match w.registryView with
  | .live => .ok (named name w.cluster.registry)
  | .missing => .ok none
  | .unsynced => .error (.notSynced ImageRegistry.kind.name)
  | .frozen r => .ok (named name r)

/-- The failure that waits for a write, and those that wait for others. -/
def failureOf (write : Write) : List (Write × ApiFailure) →
    Option ApiFailure × List (Write × ApiFailure)
  | [] => (none, [])
  | (kind, e) :: rest =>
    if kind = write then (some e, rest)
    else
      let (found, rest) := failureOf write rest
      (found, (kind, e) :: rest)

def write (w : World R) (kind : Write) (r : ImageRegistry) :
    Except StoreError ImageRegistry × World R :=
  let (result, w) : Except StoreError ImageRegistry × World R :=
    match failureOf kind w.failures with
    | (some e, failures) => (.error (.ofFailure kind.word r.name e), { w with failures })
    | (none, _) =>
      let (result, cluster) := w.cluster.write kind r
      (result, { w with cluster })
  let outcome := match result with
    | .ok _ => none
    | .error e => some e
  (result, { w with writes := w.writes ++ [(kind, r.metadata.resourceVersion, outcome)] })

/-- The answer of the world to a pass. Without storage nothing can be applied. -/
def answer : (q : PassQuestion) → StateM (World R) q.Answer
  | .registry name => fun w => (w.lookUp name, w)
  | .deployment _ => fun w =>
    (if w.deploymentSynced then .ok w.deployment else .error (.notSynced Deployment.kind.name), w)
  | .apply r => fun w =>
    match w.call .apply with
    | (.failed e, w) => (.error e, w)
    | (_, w) => (if r.spec.storage.isConfigured then .ok () else .error .storageNotConfigured, w)
  | .remove _ => fun w =>
    match w.call .remove with
    | (.failed e, w) => (.error e, w)
    | (_, w) => (.ok (), w)
  | .finalize _ => fun w =>
    match w.call .finalize with
    | (.failed e, w) => (.error e, w)
    | (.pending, w) => (.ok .pending, w)
    | (.fine, w) => (.ok .complete, w)
  | .write kind r => fun w => w.write kind r
  | .readings => fun w => (w.readings, w)
  | .report line => fun w => ((), w.report [line])

def pass (w : World R) : Except PassError Unit × World R :=
  (Pass.pass w.bootstrapSpec).run (I := surroundings) answer w

/-- What a worker did that asked for a trigger. -/
inductive Round
  /-- There was none. -/
  | idle
  /-- The queue is shut down. -/
  | stopped
  | passed
  /-- A pass failed and there is no delay for the next one. -/
  | stuck
deriving DecidableEq, Repr

/-- A worker asks for a trigger and runs a pass. -/
def round (w : World R) : Round × World R :=
  match w.queue.take with
  | (.nothing, _) => (.idle, w)
  | (.shutDown, _) => (.stopped, w)
  | (.item _, queue) =>
    let (result, w) := { w.report Worker.startReport with queue }.pass
    let (wait, queue) := Worker.settle w.queue w.now result
    (if wait.isSome then .passed else .stuck,
      { w.report (Worker.settleReport w.queue w.now result) with queue })

def advance (w : World R) (d : Duration) : World R :=
  let now : Duration := ⟨w.now.nanos + d.nanos⟩
  { w.report (w.queue.fireUntilReport Trigger.queueName Trigger.text now) with
    queue := w.queue.fireUntil now
    now }

def seed (w : World R) : Option Duration × World R :=
  let (wait, queue) := Worker.seed w.queue w.now
  let log := w.queue.addRateLimitedReport Trigger.queueName Trigger.text w.now .changes
  (wait, { w.report log with queue })

end World
end RegistryOperator
