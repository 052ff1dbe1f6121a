import RegistryOperator.Proofs.Reconcile.Observation
import RegistryOperator.Proofs.Resource.Transitions

/-! What a status says after any number of passes. Availability, progress, removal and the number of
ready replicas are those of the last pass over a registry that was managed or removed, and
degradation is that of the last pass that came to a decision. So whatever states a registry went
through, its conditions do not contradict each other. -/

namespace RegistryOperator

/-- What is at hand at the end of a pass: the registry apart from its status, its deployment, and
what came of applying its state. -/
structure Review where
  readings : Readings
  metadata : Metadata
  spec : RegistrySpec
  deployment : Option Deployment
  applied : Applied

/-- The status after some passes, which were all told of the status before them. -/
def statusAfter (reviews : List Review) : Option RegistryStatus :=
  reviews.foldl (fun status v =>
    ((ImageRegistry.mk v.metadata v.spec status).observed v.readings v.deployment v.applied).status)
    none

namespace Review

/-- Whether the operator had a say in the state of the registry. -/
def governs (v : Review) : Bool :=
  match v.spec.managementState with
  | .managed => true
  | .removed => true
  | _ => false

/-- Whether applying the state succeeded, or failed for good. -/
def decides (v : Review) : Bool :=
  match v.applied with
  | .error (.transient _) => false
  | _ => true

def verdicts (v : Review) : List Verdict :=
  Verdict.ofState v.spec v.deployment ++ Verdict.ofApplied v.applied

end Review

namespace Verdict

/-- A verdict as an observation of a condition's type. -/
def observation (readings : Readings) (v : Verdict) : Condition.Observation :=
  ⟨readings v.aspect, v.aspect.type, v.status, v.reason, v.message⟩

theorem record_eq_after (readings : Readings) (vs : List Verdict) (cs : List Condition) :
    record readings vs cs = Condition.after cs (vs.map (observation readings)) := by
  rw [record, Condition.after, List.foldl_map]
  rfl

theorem availability_status (deployment : Option Deployment) :
    (availability deployment).status = .yes ↔ 0 < (Progress.ofDeployment deployment).ready := by
  cases deployment with
  | none => simp [availability, Progress.ofDeployment]
  | some d =>
      rw [availability]
      split_ifs with hready
      · exact iff_of_true rfl hready
      · exact iff_of_false nofun hready

theorem ready_of_rollout {desired : Int} {deployment : Option Deployment}
    (h : (rollout desired deployment).status = .no) :
    (Progress.ofDeployment deployment).ready = desired := by
  cases deployment with
  | none => cases h
  | some d =>
      rw [rollout] at h
      split_ifs at h with hrolled
      simp only [Progress.isRolledOut, Bool.and_eq_true, decide_eq_true_eq] at hrolled
      exact hrolled.2

theorem ready_of_removal {deployment : Option Deployment} (h : (removal deployment).status = .no) :
    (Progress.ofDeployment deployment).ready = 0 := by
  cases deployment with
  | none => rfl
  | some d => cases h

end Verdict

namespace RegistryStatus

/-- A condition about the aspect has this status. -/
def Says (s : RegistryStatus) (a : Aspect) (status : ConditionStatus) : Prop :=
  ∃ c, Condition.find a.type s.conditions = some c ∧ c.status = status

/-- No condition is about the aspect. -/
def IsSilent (s : RegistryStatus) (a : Aspect) : Prop :=
  Condition.find a.type s.conditions = none

variable {s : RegistryStatus} {a : Aspect} {v : Verdict}

theorem Says.unique {status status' : ConditionStatus} (h : s.Says a status)
    (h' : s.Says a status') : status = status' := by
  obtain ⟨c, hfind, rfl⟩ := h
  obtain ⟨c', hfind', rfl⟩ := h'
  rw [hfind] at hfind'
  cases hfind'
  rfl

theorem says_of_stands (hv : v.Stands s.conditions) (ha : v.aspect = a) : s.Says a v.status := by
  obtain ⟨c, hfind, htells⟩ := hv
  exact ⟨c, ha ▸ hfind, htells.status_eq⟩

theorem Says.not_isSilent {status : ConditionStatus} (h : s.Says a status) : ¬s.IsSilent a := by
  obtain ⟨c, hfind, -⟩ := h
  intro hsilent
  rw [IsSilent, hfind] at hsilent
  cases hsilent

theorem IsSilent.not_says (h : s.IsSilent a) (status : ConditionStatus) : ¬s.Says a status := by
  rintro ⟨c, hfind, -⟩
  rw [IsSilent, hfind] at h
  cases h

end RegistryStatus

/-! ### Who has the last word -/

namespace Review

/-- Whether there is a verdict on the aspect. -/
def judges (v : Review) : Aspect → Bool
  | .degraded => v.decides
  | _ => v.governs

variable {v last : Review} {reviews : List Review} {a : Aspect}

theorem judges_iff : v.judges a = true ↔ a ∈ v.verdicts.map (·.aspect) := by
  rw [verdicts, List.map_append, Verdict.aspects_ofState, Verdict.aspects_ofApplied]
  unfold judges governs decides
  rcases v.applied with ((_ | _) | _) <;> cases v.spec.managementState <;> cases a <;> simp

/-- The status that a pass finds. -/
def found (reviews : List Review) : RegistryStatus := (statusAfter reviews).getD {}

theorem found_concat (reviews : List Review) (v : Review) : found (reviews ++ [v]) =
    (found reviews).observe v.readings v.spec v.metadata.specGeneration v.deployment v.applied := by
  rw [found, statusAfter, List.foldl_concat]
  rfl

theorem statusAfter_concat (reviews : List Review) (v : Review) :
    statusAfter (reviews ++ [v]) = some (found (reviews ++ [v])) := by
  rw [found_concat, statusAfter, List.foldl_concat]
  rfl

theorem conditions_concat (reviews : List Review) (v : Review) :
    (found (reviews ++ [v])).conditions =
      Verdict.record v.readings v.verdicts (found reviews).conditions := by
  rw [found_concat]
  rfl

theorem find_concat (h : last.judges a = false) :
    Condition.find a.type (found (reviews ++ [last])).conditions =
      Condition.find a.type (found reviews).conditions := by
  rw [conditions_concat]
  exact Verdict.find_record_of_not_mem _ (fun hmem => by simp [judges_iff.mpr hmem] at h) _

/-- The verdicts of the last review that has one on an aspect stand. -/
theorem stands_of_last (hlast : (reviews.filter (·.judges a)).getLast? = some v) :
    ∀ w ∈ v.verdicts, w.aspect = a → w.Stands (found reviews).conditions := by
  induction reviews using List.reverseRecOn with
  | nil => cases hlast
  | append_singleton reviews last ih =>
      rw [List.filter_append] at hlast
      intro w hw ha
      cases hjudges : last.judges a with
      | true =>
          have hv : last = v := by simpa [hjudges] using hlast
          subst hv
          rw [found_concat]
          exact RegistryStatus.observe_stands _ _ _ _ _ _ w hw
      | false =>
          have hbefore : (reviews.filter (·.judges a)).getLast? = some v := by
            simpa [hjudges] using hlast
          obtain ⟨c, hfind, htells⟩ := ih hbefore w hw ha
          rw [ha] at hfind
          refine ⟨c, ?_, htells⟩
          rw [ha, find_concat hjudges, hfind]

theorem isSilent_of_none (hnone : ∀ v ∈ reviews, v.judges a = false) :
    (found reviews).IsSilent a := by
  induction reviews using List.reverseRecOn with
  | nil => rfl
  | append_singleton reviews last ih =>
      rw [RegistryStatus.IsSilent, find_concat (hnone last (by simp))]
      exact ih fun v hv => hnone v (List.mem_append_left _ hv)

/-- The ready replicas are those of the last review that had a say. -/
theorem ready_of_last (hlast : (reviews.filter (·.governs)).getLast? = some v) :
    (found reviews).readyReplicas = (Progress.ofDeployment v.deployment).ready := by
  induction reviews using List.reverseRecOn with
  | nil => cases hlast
  | append_singleton reviews last ih =>
      rw [List.filter_append] at hlast
      rw [found_concat, RegistryStatus.observe]
      by_cases hgoverns : last.governs
      · have hv : last = v := by simpa [hgoverns] using hlast
        subst hv
        unfold governs at hgoverns
        unfold RegistryStatus.readyReplicasNow
        cases hstate : last.spec.managementState <;> simp_all
      · have hbefore : (reviews.filter (·.governs)).getLast? = some v := by
          simpa [hgoverns] using hlast
        unfold governs at hgoverns
        unfold RegistryStatus.readyReplicasNow
        cases hstate : last.spec.managementState <;> simp_all

theorem known_aspects (reviews : List Review) :
    ∀ c ∈ (found reviews).conditions, ∃ a : Aspect, c.type = a.type := by
  induction reviews using List.reverseRecOn with
  | nil => exact fun c hc => absurd hc List.not_mem_nil
  | append_singleton reviews last ih =>
      intro c hc
      rw [conditions_concat, Verdict.record_eq_after] at hc
      have htype := List.mem_map_of_mem (f := (·.type)) hc
      rw [Condition.types_after, List.mem_append] at htype
      rcases htype with hold | hnew
      · obtain ⟨c', hc', htype⟩ := List.mem_map.mp hold
        obtain ⟨a, ha⟩ := ih c' hc'
        exact ⟨a, htype.symm.trans ha⟩
      · have hobserved := (Condition.mem_newcomers.mp hnew).1
        rw [List.map_map, List.mem_map] at hobserved
        obtain ⟨w, -, hw⟩ := hobserved
        exact ⟨w.aspect, hw.symm⟩

theorem distinct_types (reviews : List Review) :
    ((found reviews).conditions.map (·.type)).Nodup := by
  induction reviews using List.reverseRecOn with
  | nil => exact List.nodup_nil
  | append_singleton reviews last ih =>
      rw [conditions_concat, Verdict.record_eq_after]
      exact Condition.nodup_after ih

end Review

/-! ### Consistency -/

/-- What a status says of a history, the latest review of which is `last`. -/
structure RegistryStatus.Consistent (history : List Review) (last : Review) (s : RegistryStatus) :
    Prop where
  distinct : (s.conditions.map (·.type)).Nodup
  known : ∀ c ∈ s.conditions, ∃ a : Aspect, c.type = a.type
  together : (s.IsSilent .available ↔ s.IsSilent .progressing) ∧
    (s.IsSilent .available ↔ s.IsSilent .removed)
  available : s.Says .available .yes → 0 < s.readyReplicas ∧ s.Says .removed .no
  removed : s.Says .removed .yes → s.Says .available .no
  gone : s.Says .removed .yes → s.Says .progressing .no → s.readyReplicas = 0
  generation : s.observedGeneration = last.metadata.specGeneration
  undecided : s.IsSilent .degraded ↔ ∀ v ∈ history, ∃ e, v.applied = .error (.transient e)
  decided : ∀ v, (history.filter (·.decides)).getLast? = some v →
    ∃ c, Condition.find Aspect.degraded.type s.conditions = some c ∧
      match v.applied with
      | .ok () => c.Tells .no "AsExpected" ""
      | .error (.permanent reason text) => c.Tells .yes reason.word text
      | .error (.transient _) => False
  upToDate : last.spec.managementState = .managed → s.Says .progressing .no →
    s.readyReplicas = last.spec.replicas ∧ (0 < last.spec.replicas → s.Says .available .yes)

namespace Review

variable {v last : Review} {history : List Review}

/-- What a status says of availability, progress and removal if `v` was the last review of a registry
that was managed or removed. -/
structure Governed (v : Review) (s : RegistryStatus) : Prop where
  stands : ∀ w ∈ Verdict.ofState v.spec v.deployment, w.Stands s.conditions
  ready : s.readyReplicas = (Progress.ofDeployment v.deployment).ready

theorem governed_of_last (hlast : (history.filter (·.governs)).getLast? = some v) :
    v.Governed (found history) := by
  refine ⟨fun w hw => ?_, ready_of_last hlast⟩
  have haspect : w.aspect ≠ .degraded := by
    have hmem := List.mem_map_of_mem (f := (·.aspect)) hw
    rw [Verdict.aspects_ofState] at hmem
    intro heq
    cases hstate : v.spec.managementState <;> simp_all
  refine stands_of_last (a := w.aspect) ?_ w (List.mem_append_left _ hw) rfl
  have hjudges : (fun u : Review => u.judges w.aspect) = (·.governs) := by
    funext u
    unfold judges
    cases hw : w.aspect <;> first | rfl | contradiction
  rw [hjudges]
  exact hlast

section Governed

variable {s : RegistryStatus} (h : v.Governed s)

include h

theorem Governed.of_managed (hstate : v.spec.managementState = .managed) :
    s.Says .available (Verdict.availability v.deployment).status ∧
      s.Says .progressing (Verdict.rollout v.spec.replicas v.deployment).status ∧
      s.Says .removed .no := by
  have hstands := h.stands
  simp only [Verdict.ofState, hstate, List.forall_mem_cons] at hstands
  obtain ⟨havailable, hprogressing, hremoved, -⟩ := hstands
  exact ⟨RegistryStatus.says_of_stands havailable (Verdict.availability_aspect _),
    RegistryStatus.says_of_stands hprogressing (Verdict.rollout_aspect _ _),
    RegistryStatus.says_of_stands hremoved rfl⟩

theorem Governed.of_removed (hstate : v.spec.managementState = .removed) :
    s.Says .available .no ∧ s.Says .progressing (Verdict.removal v.deployment).status ∧
      s.Says .removed .yes := by
  have hstands := h.stands
  simp only [Verdict.ofState, hstate, List.forall_mem_cons] at hstands
  obtain ⟨havailable, hprogressing, hremoved, -⟩ := hstands
  exact ⟨RegistryStatus.says_of_stands havailable rfl,
    RegistryStatus.says_of_stands hprogressing (Verdict.removal_aspect _),
    RegistryStatus.says_of_stands hremoved rfl⟩

end Governed

theorem state_of_governs (h : v.governs = true) :
    v.spec.managementState = .managed ∨ v.spec.managementState = .removed := by
  unfold governs at h
  cases hstate : v.spec.managementState <;> simp_all

theorem decides_eq_false_iff : v.decides = false ↔ ∃ e, v.applied = .error (.transient e) := by
  unfold decides
  rcases v.applied with ((_ | e) | _) <;> simp

/-- What the conditions about the state of the registry say of each other and of its replicas. -/
theorem states_agree (history : List Review) :
    ((found history).IsSilent .available ↔ (found history).IsSilent .progressing) ∧
    ((found history).IsSilent .available ↔ (found history).IsSilent .removed) ∧
    ((found history).Says .available .yes →
      0 < (found history).readyReplicas ∧ (found history).Says .removed .no) ∧
    ((found history).Says .removed .yes → (found history).Says .available .no) ∧
    ((found history).Says .removed .yes → (found history).Says .progressing .no →
      (found history).readyReplicas = 0) := by
  cases hlast : (history.filter (·.governs)).getLast? with
  | none =>
      -- the operator never had a say, so nothing was said
      have hgoverns : ∀ v ∈ history, v.governs = false := by
        simpa [List.filter_eq_nil_iff] using hlast
      have havailable : (found history).IsSilent .available := isSilent_of_none hgoverns
      have hprogressing : (found history).IsSilent .progressing := isSilent_of_none hgoverns
      have hremoved : (found history).IsSilent .removed := isSilent_of_none hgoverns
      exact ⟨iff_of_true havailable hprogressing, iff_of_true havailable hremoved,
        fun h => absurd h (havailable.not_says _), fun h => absurd h (hremoved.not_says _),
        fun h => absurd h (hremoved.not_says _)⟩
  | some v =>
      have hv : v.Governed (found history) := governed_of_last hlast
      have hgoverns : v.governs = true := by
        simpa using (List.mem_filter.mp (List.mem_of_getLast? hlast)).2
      rcases state_of_governs hgoverns with hstate | hstate
      · obtain ⟨havailable, hprogressing, hremoved⟩ := hv.of_managed hstate
        refine ⟨iff_of_false havailable.not_isSilent hprogressing.not_isSilent,
          iff_of_false havailable.not_isSilent hremoved.not_isSilent, fun h => ⟨?_, hremoved⟩,
          fun h => ?_, fun h => ?_⟩
        · rw [hv.ready]
          exact (Verdict.availability_status _).mp (havailable.unique h)
        · cases hremoved.unique h
        · cases hremoved.unique h
      · obtain ⟨havailable, hprogressing, hremoved⟩ := hv.of_removed hstate
        refine ⟨iff_of_false havailable.not_isSilent hprogressing.not_isSilent,
          iff_of_false havailable.not_isSilent hremoved.not_isSilent, fun h => ?_,
          fun _ => havailable, fun _ h => ?_⟩
        · cases havailable.unique h
        · rw [hv.ready]
          exact Verdict.ready_of_removal (hprogressing.unique h)

theorem decided_of_last (hlast : (history.filter (·.decides)).getLast? = some v) :
    ∃ c, Condition.find Aspect.degraded.type (found history).conditions = some c ∧
      match v.applied with
      | .ok () => c.Tells .no "AsExpected" ""
      | .error (.permanent reason text) => c.Tells .yes reason.word text
      | .error (.transient _) => False := by
  have hstands := stands_of_last (a := .degraded) hlast
  have hdecides : v.decides = true := by
    simpa using (List.mem_filter.mp (List.mem_of_getLast? hlast)).2
  unfold decides at hdecides
  unfold verdicts at hstands
  match happlied : v.applied with
  | .ok () =>
      rw [happlied] at hstands
      obtain ⟨c, hfind, htells⟩ :=
        hstands ⟨.degraded, .no, "AsExpected", ""⟩ (by simp [Verdict.ofApplied]) rfl
      exact ⟨c, hfind, htells⟩
  | .error (.permanent reason text) =>
      rw [happlied] at hstands
      obtain ⟨c, hfind, htells⟩ :=
        hstands ⟨.degraded, .yes, reason.word, text⟩ (by simp [Verdict.ofApplied]) rfl
      exact ⟨c, hfind, htells⟩
  | .error (.transient _) => simp [happlied] at hdecides

theorem undecided_iff (history : List Review) : (found history).IsSilent .degraded ↔
    ∀ v ∈ history, ∃ e, v.applied = .error (.transient e) := by
  simp only [← decides_eq_false_iff]
  constructor
  · intro hsilent
    cases hlast : (history.filter (·.decides)).getLast? with
    | none => simpa [List.filter_eq_nil_iff] using hlast
    | some v =>
        obtain ⟨c, hfind, -⟩ := decided_of_last hlast
        rw [RegistryStatus.IsSilent, hfind] at hsilent
        cases hsilent
  · exact fun h => isSilent_of_none h

theorem settled_of_managed {earlier : List Review} (hstate : last.spec.managementState = .managed)
    (hsettled : (found (earlier ++ [last])).Says .progressing .no) :
    (found (earlier ++ [last])).readyReplicas = last.spec.replicas ∧
      (0 < last.spec.replicas → (found (earlier ++ [last])).Says .available .yes) := by
  have hgoverns : last.governs = true := by
    unfold governs
    rw [hstate]
  have hlast : ((earlier ++ [last]).filter (·.governs)).getLast? = some last := by
    simp [hgoverns]
  have hgoverned := governed_of_last hlast
  obtain ⟨havailable, hprogressing, -⟩ := hgoverned.of_managed hstate
  have hready : (Progress.ofDeployment last.deployment).ready = last.spec.replicas :=
    Verdict.ready_of_rollout (hprogressing.unique hsettled)
  refine ⟨hgoverned.ready.trans hready, fun hpositive => ?_⟩
  have hyes := (Verdict.availability_status last.deployment).mpr (hready.symm ▸ hpositive)
  rwa [hyes] at havailable

end Review

/-- **Whatever a registry went through, its status does not contradict itself.** After any passes,
with any specs, generations, deployments and results at any times, there is one condition for an
aspect at most; those about the state of the registry come and agree with each other and with the
number of ready replicas; and what it says of degradation is what came of applying the state when
that was last decided. -/
theorem statuses_are_consistent (earlier : List Review) (last : Review) :
    ∃ s, statusAfter (earlier ++ [last]) = some s ∧ s.Consistent (earlier ++ [last]) last := by
  refine ⟨_, Review.statusAfter_concat earlier last, ?_⟩
  obtain ⟨hprogressing, hremoved, havailable, hnotAvailable, hgone⟩ :=
    Review.states_agree (earlier ++ [last])
  exact {
    distinct := Review.distinct_types _
    known := Review.known_aspects _
    together := ⟨hprogressing, hremoved⟩
    available := havailable
    removed := hnotAvailable
    gone := hgone
    generation := by rw [Review.found_concat]; rfl
    undecided := Review.undecided_iff _
    decided := fun v => Review.decided_of_last
    upToDate := Review.settled_of_managed }

end RegistryOperator
