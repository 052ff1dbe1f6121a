import Mathlib.Data.List.Nodup
import RegistryOperator.Proofs.Resource.Conditions
import RegistryOperator.Reconcile.Status

/-! What a status says after a pass recorded its verdicts. There is one verdict for an aspect at
most, so each of them stands; and recording what stands already changes nothing, so a second look at
an unchanged world leaves the status as it is, whatever the clock shows. -/

namespace RegistryOperator

theorem Aspect.type_injective : Function.Injective Aspect.type := by
  intro a b h
  cases a <;> cases b <;> first | rfl | exact absurd h (by decide)

namespace Verdict

/-- The first condition about the aspect says what the verdict says. -/
def Stands (v : Verdict) (cs : List Condition) : Prop :=
  ∃ c, Condition.find v.aspect.type cs = some c ∧ c.Tells v.status v.reason v.message

variable {vs : List Verdict} {cs : List Condition}

theorem record_cons (readings : Readings) (v : Verdict) (vs : List Verdict) (cs : List Condition) :
    record readings (v :: vs) cs = record readings vs
      (Condition.set (readings v.aspect) v.aspect.type v.status v.reason v.message cs) := rfl

theorem record_of_stands (readings : Readings) (h : ∀ v ∈ vs, v.Stands cs) :
    record readings vs cs = cs := by
  induction vs with
  | nil => rfl
  | cons v vs ih =>
      obtain ⟨c, hfind, htells⟩ := h v List.mem_cons_self
      rw [record_cons, Condition.set_of_tells _ hfind htells]
      exact ih fun v' hv' => h v' (List.mem_cons_of_mem v hv')

theorem find_record_of_not_mem (readings : Readings) {a : Aspect} (ha : a ∉ vs.map (·.aspect))
    (cs : List Condition) :
    Condition.find a.type (record readings vs cs) = Condition.find a.type cs := by
  induction vs generalizing cs with
  | nil => rfl
  | cons v vs ih =>
      rw [List.map_cons, List.mem_cons, not_or] at ha
      have hne : v.aspect.type ≠ a.type := fun h => ha.1 (Aspect.type_injective h).symm
      rw [record_cons, ih ha.2, Condition.find_set_of_ne _ hne]

theorem stands_record (readings : Readings) (hvs : (vs.map (·.aspect)).Nodup) (cs : List Condition) :
    ∀ v ∈ vs, v.Stands (record readings vs cs) := by
  induction vs generalizing cs with
  | nil => exact fun v hv => absurd hv List.not_mem_nil
  | cons first vs ih =>
      rw [List.map_cons, List.nodup_cons] at hvs
      intro v hv
      rw [record_cons]
      rcases List.mem_cons.mp hv with rfl | hv
      · rw [Stands, find_record_of_not_mem readings hvs.1]
        exact Condition.find_set_self _ cs
      · exact ih hvs.2 _ v hv

@[simp] theorem availability_aspect (deployment : Option Deployment) :
    (availability deployment).aspect = .available := by
  unfold availability
  split
  · rfl
  · split_ifs <;> rfl

@[simp] theorem rollout_aspect (desired : Int) (deployment : Option Deployment) :
    (rollout desired deployment).aspect = .progressing := by
  unfold rollout
  split
  · rfl
  · split_ifs <;> rfl

@[simp] theorem removal_aspect (deployment : Option Deployment) :
    (removal deployment).aspect = .progressing := by
  cases deployment <;> rfl

theorem aspects_ofState (spec : RegistrySpec) (deployment : Option Deployment) :
    (ofState spec deployment).map (·.aspect) =
      match spec.managementState with
      | .managed => [.available, .progressing, .removed]
      | .removed => [.available, .progressing, .removed]
      | .unmanaged => []
      | .unknown _ => [] := by
  unfold ofState
  cases spec.managementState <;> simp

theorem aspects_ofApplied (applied : Applied) :
    (ofApplied applied).map (·.aspect) =
      match applied with
      | .ok () => [.degraded]
      | .error (.permanent _ _) => [.degraded]
      | .error (.transient _) => [] := by
  match applied with
  | .ok () => rfl
  | .error (.permanent _ _) => rfl
  | .error (.transient _) => rfl

/-- There is one verdict for an aspect at most. -/
theorem nodup_aspects (spec : RegistrySpec) (deployment : Option Deployment) (applied : Applied) :
    ((ofState spec deployment ++ ofApplied applied).map (·.aspect)).Nodup := by
  rw [List.map_append, aspects_ofState, aspects_ofApplied]
  rcases applied with ((_ | _) | _) <;> cases spec.managementState <;> simp

end Verdict

namespace RegistryStatus

variable (s : RegistryStatus) (readings : Readings) (spec : RegistrySpec) (generation : Int)
  (deployment : Option Deployment) (applied : Applied)

theorem observe_stands :
    ∀ v ∈ Verdict.ofState spec deployment ++ Verdict.ofApplied applied,
      v.Stands (s.observe readings spec generation deployment applied).conditions :=
  Verdict.stands_record readings (Verdict.nodup_aspects spec deployment applied) s.conditions

/-- Who looks again and finds the same writes the same. -/
theorem observe_observe (readings' : Readings) :
    (s.observe readings spec generation deployment applied).observe readings' spec generation
        deployment applied = s.observe readings spec generation deployment applied := by
  have hconditions := Verdict.record_of_stands readings'
    (s.observe_stands readings spec generation deployment applied)
  have hready : (s.observe readings spec generation deployment applied).readyReplicasNow spec
      deployment = s.readyReplicasNow spec deployment := by
    unfold observe readyReplicasNow
    cases spec.managementState <;> rfl
  rw [observe, hconditions, hready]
  rfl

end RegistryStatus
end RegistryOperator
