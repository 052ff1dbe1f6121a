import RegistryOperator.Api.Dependents
import RegistryOperator.Api.RegistryStore
import RegistryOperator.Json.Change
import RegistryOperator.Reconcile.Status

/-! One pass: a program that looks at the registry and its deployment, brings the objects that the
registry needs to what the spec says, and writes what changed. It starts from what the caches say
and nothing else. It ends with two writes at most, one of metadata and spec and one of the status,
each of them based on the version that was looked at; what did not change is not written. -/

namespace RegistryOperator

/-- What a pass may ask of its surroundings. -/
inductive PassQuestion
  /-- The registry of a given name in the cache. -/
  | registry (name : String)
  /-- The deployment of a given name in the cache. -/
  | deployment (name : String)
  /-- Brings the objects that the registry needs to what its spec says. -/
  | apply (r : ImageRegistry)
  /-- Deletes these objects. -/
  | remove (r : ImageRegistry)
  /-- Deletes these objects and finds out whether they are gone. -/
  | finalize (r : ImageRegistry)
  | write (w : Write) (r : ImageRegistry)
  /-- The clock, read once for each aspect of the status. -/
  | readings
  /-- Something to report; there is nothing to answer. -/
  | report (line : LogLine)

def PassQuestion.Answer : PassQuestion → Type
  | .registry _ => Except ListerError (Option ImageRegistry)
  | .deployment _ => Except ListerError (Option Deployment)
  | .apply _ => Except GeneratorError Unit
  | .remove _ => Except GeneratorError Unit
  | .finalize _ => Except GeneratorError Teardown
  | .write _ _ => Except StoreError ImageRegistry
  | .readings => Readings
  | .report _ => Unit

def surroundings : Interface := ⟨PassQuestion, PassQuestion.Answer⟩

abbrev PassProgram (α : Type) := Program surroundings α

namespace Pass

def ask (q : PassQuestion) : PassProgram q.Answer := Program.question (I := surroundings) q

def report (level : LogLevel) (message : String) : PassProgram Unit :=
  ask (.report ⟨level, message⟩)

/-- Creates the registry that is missing. If someone else was faster, all is well: the next pass
finds theirs. -/
def bootstrap (spec : RegistrySpec) : PassProgram (Except PassError Unit) := do
  report .info s!"ImageRegistry '{ImageRegistry.clusterName}' does not exist, creating the default"
  match ← ask (.write .create (.bootstrap spec)) with
  | .ok _ => return .ok ()
  | .error e =>
    if e.isAlreadyExists then
      report .debug e.message
      return .ok ()
    else return .error (.bootstrap e)

/-- Brings down the objects of a registry that is to be deleted, and lets it go once they are
gone. -/
def finalize (r : ImageRegistry) : PassProgram (Except PassError Unit) := do
  if !r.metadata.hasFinalizer ImageRegistry.finalizer then
    report .debug (s!"ImageRegistry '{r.name}' is being deleted and has no " ++
      s!"'{ImageRegistry.finalizer}' finalizer")
    return .ok ()
  match ← ask (.finalize r) with
  | .error e => return .error (.finalize r.name e)
  | .ok .pending => return .error (.teardownPending r.name ImageRegistry.finalizer)
  | .ok .complete =>
    match ← ask (.write .update
        { r with metadata := r.metadata.removeFinalizer ImageRegistry.finalizer }) with
    | .error e => return .error (.updateRegistry r.name e)
    | .ok _ =>
      report .info (s!"ImageRegistry '{r.name}' torn down, removed finalizer " ++
        s!"'{ImageRegistry.finalizer}'")
      return .ok ()

/-- Does what the management state says. A spec with faults is not acted upon. -/
def applyState (r : ImageRegistry) : PassProgram Applied := do
  match r.spec.managementState with
  | .managed =>
    match r.spec.verify with
    | .error fault => return .error (.ofFault fault)
    | .ok () => return (← ask (.apply r)).mapError .ofGenerator
  | .removed => return (← ask (.remove r)).mapError .ofGenerator
  | .unmanaged => return .ok ()
  | .unknown word =>
    report .warn s!"unknown management state '{word}' in ImageRegistry '{r.name}', ignoring"
    return .ok ()

/-- Reports a failed write, unless someone else wrote first. -/
def reportFailure (what name : String) (e : StoreError) : PassProgram Unit :=
  if e.isConflict then return ()
  else report .error s!"unable to update {what}ImageRegistry '{name}': {e.message}"

/-- Writes metadata and spec if they changed. What comes back is the registry at the version that
the next write is based on. -/
def persistObject (previous r : ImageRegistry) : PassProgram (Except PassError ImageRegistry) := do
  if r.metadata = previous.metadata ∧ r.spec = previous.spec then return .ok r
  report .info
    s!"object changed: ImageRegistry '{r.name}':\n{Json.describeChanges previous.toJson r.toJson}"
  match ← ask (.write .update r) with
  | .error e =>
    reportFailure "" r.name e
    return .error (.updateRegistry r.name e)
  | .ok stored =>
    return .ok { r with
      metadata := { r.metadata with resourceVersion := stored.metadata.resourceVersion } }

def persistStatus (previous r : ImageRegistry) : PassProgram (Except PassError Unit) := do
  if r.status = previous.status then return .ok ()
  match ← ask (.write .updateStatus r) with
  | .error e =>
    reportFailure "status of " r.name e
    return .error (.updateStatus r.name e)
  | .ok _ => return .ok ()

def persist (previous r : ImageRegistry) : PassProgram (Except PassError Unit) := do
  match ← persistObject previous r with
  | .error e => return .error e
  | .ok r => persistStatus previous r

/-- What a pass makes of what came of applying the state, once that is recorded. -/
def conclude : Applied → PassProgram (Except PassError Unit)
  | .ok () => return .ok ()
  | .error e => do
    if e.isPermanent then
      report .warn (s!"ImageRegistry '{ImageRegistry.clusterName}' cannot be reconciled until " ++
        s!"its spec changes: {e.message}")
      return .ok ()
    else return .error (.apply ImageRegistry.clusterName e)

/-- A pass over a registry that is there to stay. -/
def manage (previous : ImageRegistry) : PassProgram (Except PassError Unit) := do
  let r := { previous with metadata := previous.metadata.addFinalizer ImageRegistry.finalizer }
  let applied ← applyState r
  match ← ask (.deployment registryName) with
  | .error e => return .error (.getDeployment registryName e)
  | .ok deployment =>
    match ← persist previous (r.observed (← ask .readings) deployment applied) with
    | .error e => return .error e
    | .ok () => conclude applied

/-- A pass, given the spec for a registry that is missing. -/
def pass (bootstrapSpec : RegistrySpec) : PassProgram (Except PassError Unit) := do
  match ← ask (.registry ImageRegistry.clusterName) with
  | .error e => return .error (.getRegistry ImageRegistry.clusterName e)
  | .ok none => bootstrap bootstrapSpec
  | .ok (some r) => if r.metadata.isDeleteRequested then finalize r else manage r

end Pass
end RegistryOperator
