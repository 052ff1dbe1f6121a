import RegistryOperator.Reconcile.Outcome
import RegistryOperator.Resource.Deployment

/-! The status that a registry gets at the end of a pass. Of each aspect of the registry one
condition speaks. Availability, progress and removal follow from the management state and the
deployment, and are left alone where the operator does not manage the registry. Degradation follows
from what came of applying the state, and is left alone where that may pass by itself. -/

namespace RegistryOperator

/-- What a condition of the registry is about. -/
inductive Aspect
  | available
  | progressing
  | removed
  | degraded
deriving DecidableEq, Repr

/-- The type of the condition that is about an aspect. -/
def Aspect.type : Aspect → String
  | .available => "Available"
  | .progressing => "Progressing"
  | .removed => "Removed"
  | .degraded => "Degraded"

/-- What is to be said about an aspect. -/
structure Verdict where
  aspect : Aspect
  status : ConditionStatus
  reason : String
  message : String
deriving DecidableEq, Repr

/-- The readings of the clock, one for each aspect, since each is judged at its own moment. -/
abbrev Readings := Aspect → Timestamp

/-- The replicas of the registry's deployment, zero where nothing is known. -/
structure Progress where
  ready : Int := 0
  updated : Int := 0
  replicas : Int := 0
  /-- Whether what is known is about an older spec of the deployment, or nothing is known. -/
  stale : Bool := false
deriving DecidableEq, Repr

namespace Progress

/-- Whether one generation, none coming first, is before another. -/
def isBefore : Option Int → Option Int → Bool
  | none, some _ => true
  | some a, some b => a < b
  | _, none => false

/-- The progress of a deployment, if there is one. -/
def ofDeployment : Option Deployment → Progress
  | none => {}
  | some d =>
    match d.status with
    | none => { stale := true }
    | some s =>
      { ready := s.readyReplicas.getD 0
        updated := s.updatedReplicas.getD 0
        replicas := s.replicas.getD 0
        stale := isBefore s.observedGeneration d.metadata.generation }

/-- Whether all of the desired replicas, and no others, are there, new and ready. -/
def isRolledOut (p : Progress) (desired : Int) : Bool :=
  !p.stale && p.updated = desired && p.replicas = desired && p.ready = desired

end Progress

namespace Verdict

/-- The verdict on the availability of a managed registry. -/
def availability (deployment : Option Deployment) : Verdict :=
  match deployment with
  | none => ⟨.available, .no, "DeploymentNotFound", "The deployment does not exist"⟩
  | some d =>
    if 0 < (Progress.ofDeployment (some d)).ready then
      ⟨.available, .yes, "Ready", "The registry is ready"⟩
    else ⟨.available, .no, "NoReplicasAvailable", "The deployment does not have available replicas"⟩

/-- The verdict on the progress of a managed registry. -/
def rollout (desired : Int) (deployment : Option Deployment) : Verdict :=
  match deployment with
  | none => ⟨.progressing, .yes, "WaitingForDeployment", "The deployment is being created"⟩
  | some d =>
    if (Progress.ofDeployment (some d)).isRolledOut desired then
      ⟨.progressing, .no, "Ready", "All registry resources are up to date"⟩
    else ⟨.progressing, .yes, "DeploymentProgressing", "The deployment is rolling out"⟩

/-- The verdict on the progress of a removal. -/
def removal (deployment : Option Deployment) : Verdict :=
  match deployment with
  | some _ => ⟨.progressing, .yes, "DeletingDeployment", "The deployment is being deleted"⟩
  | none => ⟨.progressing, .no, "Removed", "All registry resources are removed"⟩

/-- The verdicts that follow from the management state and the deployment. -/
def ofState (spec : RegistrySpec) (deployment : Option Deployment) : List Verdict :=
  match spec.managementState with
  | .managed =>
    [availability deployment, rollout spec.replicas deployment,
      ⟨.removed, .no, "Managed", "The registry is managed"⟩]
  | .removed =>
    [⟨.available, .no, "Removed", "The registry is removed"⟩, removal deployment,
      ⟨.removed, .yes, "Removed", "The registry is removed"⟩]
  | .unmanaged => []
  | .unknown _ => []

/-- The verdict on degradation, if there is one. -/
def ofApplied : Applied → List Verdict
  | .ok () => [⟨.degraded, .no, "AsExpected", ""⟩]
  | .error (.permanent reason text) => [⟨.degraded, .yes, reason.word, text⟩]
  | .error (.transient _) => []

def record (readings : Readings) (verdicts : List Verdict) (conditions : List Condition) :
    List Condition :=
  verdicts.foldl (fun cs v =>
    Condition.set (readings v.aspect) v.aspect.type v.status v.reason v.message cs)
    conditions

end Verdict

namespace RegistryStatus

/-- The ready replicas of a registry; of one that is not managed, those that were counted last. -/
def readyReplicasNow (s : RegistryStatus) (spec : RegistrySpec) (deployment : Option Deployment) :
    Int :=
  match spec.managementState with
  | .managed => (Progress.ofDeployment deployment).ready
  | .removed => (Progress.ofDeployment deployment).ready
  | .unmanaged => s.readyReplicas
  | .unknown _ => s.readyReplicas

/-- The status after a pass over a spec of some generation. -/
def observe (s : RegistryStatus) (readings : Readings) (spec : RegistrySpec) (generation : Int)
    (deployment : Option Deployment) (applied : Applied) : RegistryStatus where
  observedGeneration := generation
  readyReplicas := s.readyReplicasNow spec deployment
  conditions :=
    Verdict.record readings (Verdict.ofState spec deployment ++ Verdict.ofApplied applied)
      s.conditions

end RegistryStatus

namespace ImageRegistry

/-- The registry with the status after a pass. -/
def observed (r : ImageRegistry) (readings : Readings) (deployment : Option Deployment)
    (applied : Applied) : ImageRegistry :=
  { r with
    status := some <|
      (r.status.getD {}).observe readings r.spec r.metadata.specGeneration deployment applied }

end ImageRegistry
end RegistryOperator
