import RegistryOperator.Cluster.World
import RegistryOperator.Proofs.Program.Conversation
import RegistryOperator.Proofs.Reconcile.Observation
import RegistryOperator.Proofs.Resource.Finalizers

/-! A calm world. The cache shows what is stored, only passes write, the deployment stays as it is,
and what comes of a call for the objects that a registry needs is up to its spec; only the clock
goes on. There passes come to rest. One pass over a registry that is to stay writes all there is to
write, and whatever was stored at first, the fourth pass and all after it write nothing. -/

namespace RegistryOperator

/-- What stays as it is in a calm world. -/
structure Calm where
  bootstrapSpec : RegistrySpec := {}
  deployment : Except ListerError (Option Deployment) := .ok none
  apply : RegistrySpec → Except GeneratorError Unit := fun _ => .ok ()
  remove : RegistrySpec → Except GeneratorError Unit := fun _ => .ok ()
  finalize : RegistrySpec → Except GeneratorError Teardown := fun _ => .ok .complete

namespace Cluster

variable {k : Cluster} {stored r : ImageRegistry}

/-- The stored object has the name under which the cache looks for it. -/
def Named (k : Cluster) : Prop := ∀ r, k.registry = some r → r.name = ImageRegistry.clusterName

/-- An update that does not touch the spec replaces the finalizers. -/
def refinalized (k : Cluster) (stored r : ImageRegistry) : ImageRegistry :=
  k.stamp { stored with metadata := { stored.metadata with finalizers := r.metadata.finalizers } }

theorem write_update (hstored : k.registry = some stored) (hspec : r.spec = stored.spec)
    (hversion : r.metadata.resourceVersion = stored.metadata.resourceVersion) :
    k.write .update r = (.ok (k.refinalized stored r),
      ⟨if (k.refinalized stored r).metadata.isDeleteRequested &&
          !(k.refinalized stored r).metadata.hasFinalizers then none
        else some (k.refinalized stored r), k.next⟩) := by
  have hmerged : k.stamp (merged stored r) = k.refinalized stored r := by
    rw [merged, if_pos hspec.symm, hspec, refinalized]
  simp only [write, update, current, hstored, hversion, if_true, hmerged]
  rfl

theorem write_updateStatus (hstored : k.registry = some stored)
    (hversion : r.metadata.resourceVersion = stored.metadata.resourceVersion) :
    k.write .updateStatus r = (.ok (k.stamp { stored with status := r.status }),
      ⟨some (k.stamp { stored with status := r.status }), k.next⟩) := by
  simp only [write, updateStatus, current, hstored, hversion, if_true]
  rfl

theorem write_create (hstored : k.registry = none) :
    ∃ created, k.write .create r = (.ok created, ⟨some created, k.next⟩) ∧ created.name = r.name ∧
      created.metadata.isDeleteRequested = r.metadata.isDeleteRequested := by
  refine ⟨k.stamp { r with metadata := { r.metadata with generation := some 1 } }, ?_, rfl, rfl⟩
  simp only [write, create, hstored]
  rfl

end Cluster

namespace Calm

variable (c : Calm) (readings : Readings)

/-- Answers a pass. The state is the cluster, and the writes that were sent to it. -/
def answer : (q : PassQuestion) → StateM (Cluster × List Write) q.Answer
  | .registry name => fun s => (.ok (World.named name s.1.registry), s)
  | .deployment _ => fun s => (c.deployment, s)
  | .apply r => fun s => (c.apply r.spec, s)
  | .remove r => fun s => (c.remove r.spec, s)
  | .finalize r => fun s => (c.finalize r.spec, s)
  | .write kind r => fun (k, w) =>
    let (result, k) := k.write kind r
    (result, k, w ++ [kind])
  | .readings => fun s => (readings, s)
  | .report _ => fun s => ((), s)

def runPart {α : Type} (p : PassProgram α) : StateM (Cluster × List Write) α :=
  p.run (I := surroundings) (c.answer readings)

/-- The cluster after a pass, and the writes that the pass sent. -/
def pass (k : Cluster) : Cluster × List Write :=
  (c.runPart readings (Pass.pass c.bootstrapSpec) (k, [])).2

/-- The cluster after some passes, each at its own readings of the clock. -/
def after (c : Calm) (clock : Nat → Readings) (k : Cluster) : Nat → Cluster
  | 0 => k
  | n + 1 => (c.pass (clock n) (c.after clock k n)).1

/-- The writes of a pass that comes after so many others. -/
def writes (clock : Nat → Readings) (k : Cluster) (n : Nat) : List Write :=
  (c.pass (clock n) (c.after clock k n)).2

/-- What comes of applying the state that a spec asks for. -/
def applied (spec : RegistrySpec) : Applied :=
  match spec.managementState with
  | .managed =>
    match spec.verify with
    | .error fault => .error (.ofFault fault)
    | .ok () => (c.apply spec).mapError .ofGenerator
  | .removed => (c.remove spec).mapError .ofGenerator
  | .unmanaged => .ok ()
  | .unknown _ => .ok ()

/-! ### What each part of a pass does -/

variable {α β : Type} {s : Cluster × List Write} {k : Cluster} {w : List Write}
  {r previous : ImageRegistry}

@[simp] theorem runPart_bind (p : PassProgram α) (f : α → PassProgram β) :
    c.runPart readings (p >>= f) s =
      c.runPart readings (f (c.runPart readings p s).1) (c.runPart readings p s).2 :=
  congrFun (Program.run_bind (I := surroundings) (c.answer readings) p f) s

@[simp] theorem runPart_ask (q : PassQuestion) :
    c.runPart readings (Pass.ask q) s = c.answer readings q s :=
  congrFun (Program.run_question (I := surroundings) (c.answer readings) q) s

@[simp] theorem runPart_report (level : LogLevel) (message : String) :
    c.runPart readings (Pass.report level message) s = ((), s) := rfl

theorem applyState_run (r : ImageRegistry) :
    c.runPart readings (Pass.applyState r) s = (c.applied r.spec, s) := by
  unfold Pass.applyState applied
  cases r.spec.managementState with
  | managed =>
      dsimp only
      cases r.spec.verify with
      | error fault => rfl
      | ok _ => rfl
  | removed => rfl
  | unmanaged => rfl
  | unknown word => rfl

theorem conclude_run (applied : Applied) :
    (c.runPart readings (Pass.conclude applied) s).2 = s := by
  unfold Pass.conclude
  match applied with
  | .ok () => rfl
  | .error (.permanent _ _) => rfl
  | .error (.transient _) => rfl

theorem persistObject_run (hstored : k.registry = some previous)
    (hstay : previous.metadata.isDeleteRequested = false) (hspec : r.spec = previous.spec)
    (hmetadata : r.metadata = previous.metadata.addFinalizer ImageRegistry.finalizer) :
    ∃ x s', c.runPart readings (Pass.persistObject previous r) (k, w) =
        (.ok { r with metadata := x.metadata }, s') ∧
      s'.1.registry = some x ∧ x.spec = previous.spec ∧ x.status = previous.status ∧
      x.metadata = { r.metadata with resourceVersion := x.metadata.resourceVersion } := by
  by_cases hsame : r.metadata = previous.metadata ∧ r.spec = previous.spec
  · refine ⟨previous, (k, w), ?_, hstored, rfl, rfl, ?_⟩
    · rw [Pass.persistObject, if_pos hsame, ← hsame.1]
      rfl
    · rw [hsame.1]
  · have hversion : r.metadata.resourceVersion = previous.metadata.resourceVersion := by
      rw [hmetadata, Metadata.addFinalizer_resourceVersion]
    have hwrite := Cluster.write_update hstored hspec hversion
    have hgone : (k.refinalized previous r).metadata.isDeleteRequested = false := hstay
    have hx : (k.refinalized previous r).metadata = { r.metadata with
        resourceVersion := (k.refinalized previous r).metadata.resourceVersion } := by
      rw [hmetadata, Metadata.addFinalizer_eq]
      simp only [Cluster.refinalized, Cluster.stamp, hmetadata]
    rw [hgone, Bool.false_and, if_neg Bool.false_ne_true] at hwrite
    refine ⟨k.refinalized previous r, (⟨some (k.refinalized previous r), k.next⟩, w ++ [.update]),
      ?_, rfl, rfl, rfl, hx⟩
    rw [Pass.persistObject, if_neg hsame]
    simp only [runPart_bind, runPart_report, runPart_ask, answer, hwrite]
    rw [hx]
    rfl

theorem persistStatus_run {x : ImageRegistry} (hstored : k.registry = some x)
    (hversion : r.metadata.resourceVersion = x.metadata.resourceVersion)
    (hstatus : x.status = previous.status) :
    ∃ y s', c.runPart readings (Pass.persistStatus previous r) (k, w) = (.ok (), s') ∧
      s'.1.registry = some y ∧ y.spec = x.spec ∧ y.status = r.status ∧
      y.metadata = { x.metadata with resourceVersion := y.metadata.resourceVersion } := by
  by_cases hsame : r.status = previous.status
  · refine ⟨x, (k, w), ?_, hstored, rfl, hstatus.trans hsame.symm, rfl⟩
    rw [Pass.persistStatus, if_pos hsame]
    rfl
  · have hwrite := Cluster.write_updateStatus hstored hversion
    refine ⟨_, (⟨some (k.stamp { x with status := r.status }), k.next⟩, w ++ [.updateStatus]),
      ?_, rfl, rfl, rfl, rfl⟩
    rw [Pass.persistStatus, if_neg hsame]
    simp only [runPart_bind, runPart_ask, answer, hwrite]
    rfl

theorem persist_run (hstored : k.registry = some previous)
    (hstay : previous.metadata.isDeleteRequested = false) (hspec : r.spec = previous.spec)
    (hmetadata : r.metadata = previous.metadata.addFinalizer ImageRegistry.finalizer) :
    ∃ y s', c.runPart readings (Pass.persist previous r) (k, w) = (.ok (), s') ∧
      s'.1.registry = some y ∧ y.spec = previous.spec ∧ y.status = r.status ∧
      y.metadata = { r.metadata with resourceVersion := y.metadata.resourceVersion } := by
  obtain ⟨x, ⟨k', w'⟩, hobject, hx, hxspec, hxstatus, hxmetadata⟩ :=
    c.persistObject_run readings (w := w) hstored hstay hspec hmetadata
  obtain ⟨y, s', hstatus, hy, hyspec, hystatus, hymetadata⟩ :=
    c.persistStatus_run readings (w := w') (r := { r with metadata := x.metadata }) hx rfl
      hxstatus
  refine ⟨y, s', ?_, hy, hyspec.trans hxspec, hystatus, ?_⟩
  · rw [Pass.persist, runPart_bind, hobject]
    exact hstatus
  · rw [hymetadata, hxmetadata]

theorem persist_of_eq (hmetadata : r.metadata = previous.metadata) (hspec : r.spec = previous.spec)
    (hstatus : r.status = previous.status) : Pass.persist previous r = pure (.ok ()) := by
  rw [Pass.persist, Pass.persistObject, if_pos ⟨hmetadata, hspec⟩]
  change Pass.persistStatus previous r = _
  rw [Pass.persistStatus, if_pos hstatus]

/-- The status that a registry should have. -/
def statusDue (r : ImageRegistry) (deployment : Option Deployment) : Option RegistryStatus :=
  (r.observed readings deployment (c.applied r.spec)).status

theorem manage_run {deployment : Option Deployment} (hdeployment : c.deployment = .ok deployment)
    (hstored : k.registry = some r) (hstay : r.metadata.isDeleteRequested = false) :
    ∃ y, (c.runPart readings (Pass.manage r) (k, w)).2.1.registry = some y ∧ y.spec = r.spec ∧
      y.status = c.statusDue readings r deployment ∧
      y.metadata = { r.metadata.addFinalizer ImageRegistry.finalizer with
        resourceVersion := y.metadata.resourceVersion } := by
  let r' := { r with metadata := r.metadata.addFinalizer ImageRegistry.finalizer }
  obtain ⟨y, s', hpersist, hy, hspec, hstatus, hmetadata⟩ :=
    c.persist_run readings (w := w)
      (r := r'.observed readings deployment (c.applied r.spec)) hstored hstay rfl rfl
  refine ⟨y, ?_, hspec, ?_, hmetadata⟩
  · unfold Pass.manage
    simp only [runPart_bind, applyState_run, runPart_ask, answer, hdeployment]
    rw [hpersist]
    dsimp only
    rw [conclude_run]
    exact hy
  · rw [hstatus, statusDue, ImageRegistry.observed, ImageRegistry.observed]
    simp only [Metadata.addFinalizer_specGeneration, r']

theorem manage_of_error {e : ListerError} (hdeployment : c.deployment = .error e) :
    (c.runPart readings (Pass.manage r) s).2 = s := by
  unfold Pass.manage
  simp only [runPart_bind, applyState_run, runPart_ask, answer, hdeployment]
  rfl

/-- A registry on which nothing is left to be done. -/
structure Tended (r : ImageRegistry) : Prop where
  stay : r.metadata.isDeleteRequested = false
  held : r.metadata.hasFinalizer ImageRegistry.finalizer = true
  status_eq : ∀ deployment, c.deployment = .ok deployment →
    ∀ readings, r.status = c.statusDue readings r deployment

variable {c}

theorem Tended.manage (h : c.Tended r) : (c.runPart readings (Pass.manage r) s).2 = s := by
  cases hdeployment : c.deployment with
  | error e => exact c.manage_of_error readings hdeployment
  | ok deployment =>
      have hsame : Pass.persist r (r.observed readings deployment (c.applied r.spec)) =
          pure (.ok ()) :=
        persist_of_eq rfl rfl (h.status_eq deployment hdeployment readings).symm
      unfold Pass.manage
      rw [Metadata.addFinalizer_of_hasFinalizer _ h.held]
      simp only [runPart_bind, applyState_run, runPart_ask, answer, hdeployment]
      rw [hsame]
      exact c.conclude_run readings _

/-- One pass tends to a registry, and what it leaves is tended to at any time. -/
theorem tended_of_manage {deployment : Option Deployment} {y : ImageRegistry}
    (hdeployment : c.deployment = .ok deployment) (hstay : r.metadata.isDeleteRequested = false)
    (hspec : y.spec = r.spec) (hstatus : y.status = c.statusDue readings r deployment)
    (hmetadata : y.metadata = { r.metadata.addFinalizer ImageRegistry.finalizer with
      resourceVersion := y.metadata.resourceVersion }) : c.Tended y := by
  have hgeneration : y.metadata.specGeneration = r.metadata.specGeneration := by
    rw [hmetadata]
    exact Metadata.addFinalizer_specGeneration _ _
  refine ⟨?_, ?_, fun deployment' hdeployment' readings' => ?_⟩
  · rw [hmetadata, Metadata.addFinalizer_eq]
    exact hstay
  · rw [hmetadata]
    exact Metadata.hasFinalizer_addFinalizer _ _
  · -- The new status follows from the spec, the generation and what the calls came to, which are
    -- the same, and from the old status, which was observed already.
    cases hdeployment.symm.trans hdeployment'
    rw [statusDue, ImageRegistry.observed, hstatus, hspec, hgeneration, statusDue]
    exact congrArg some (RegistryStatus.observe_observe _ _ _ _ _ _ _).symm

theorem finalize_of_kept (hkept : r.metadata.hasFinalizer ImageRegistry.finalizer = false ∨
    c.finalize r.spec ≠ .ok .complete) : (c.runPart readings (Pass.finalize r) s).2 = s := by
  unfold Pass.finalize
  cases hheld : r.metadata.hasFinalizer ImageRegistry.finalizer with
  | false => rfl
  | true =>
      have hteardown := hkept.resolve_left (by simp [hheld])
      simp only [Bool.not_true, Bool.false_eq_true, if_false, runPart_bind, runPart_ask, answer]
      match hanswer : c.finalize r.spec with
      | .error e => rfl
      | .ok .pending => rfl
      | .ok .complete => exact absurd hanswer hteardown

/-- A registry that is let go is gone, or others hold it. -/
theorem finalize_run (hstored : k.registry = some r) (hdelete : r.metadata.isDeleteRequested = true)
    (hheld : r.metadata.hasFinalizer ImageRegistry.finalizer = true)
    (hteardown : c.finalize r.spec = .ok .complete) :
    let k' := (c.runPart readings (Pass.finalize r) (k, w)).2.1
    k'.registry = none ∨ ∃ x, k'.registry = some x ∧ x.name = r.name ∧
      x.metadata.isDeleteRequested = true ∧
      x.metadata.hasFinalizer ImageRegistry.finalizer = false := by
  let r' := { r with metadata := r.metadata.removeFinalizer ImageRegistry.finalizer }
  have hwrite := Cluster.write_update (r := r') hstored rfl rfl
  have hrun : (c.runPart readings (Pass.finalize r) (k, w)).2.1 = (k.write .update r').2 := by
    unfold Pass.finalize
    rw [hheld]
    simp only [Bool.not_true, Bool.false_eq_true, if_false, runPart_bind, runPart_ask, answer,
      hteardown]
    rw [hwrite]
    rfl
  rw [hrun, hwrite]
  dsimp only
  split_ifs
  · exact Or.inl rfl
  · refine Or.inr ⟨_, rfl, rfl, hdelete, ?_⟩
    exact Metadata.hasFinalizer_removeFinalizer _ _

/-- Nothing is left to be done, whatever the clock shows. -/
def Settled (c : Calm) (k : Cluster) : Prop := ∀ readings, c.pass readings k = (k, [])

/-- Nothing is left to be done after so many passes, whatever the clock shows at each of them. -/
def SettlesWithin (c : Calm) : Nat → Cluster → Prop
  | 0, k => c.Settled k
  | n + 1, k => ∀ readings, c.SettlesWithin n (c.pass readings k).1

variable {clock : Nat → Readings} {n m : Nat}

theorem SettlesWithin.succ (h : c.SettlesWithin n k) : c.SettlesWithin (n + 1) k := by
  induction n generalizing k with
  | zero =>
      intro readings
      rw [h readings]
      exact h
  | succ n ih => exact fun readings => ih (h readings)

theorem SettlesWithin.after (h : c.SettlesWithin n (c.after clock k m)) :
    c.Settled (c.after clock k (m + n)) := by
  induction n generalizing m with
  | zero => exact h
  | succ n ih =>
      rw [← Nat.succ_add_eq_add_succ]
      exact ih (h (clock m))

theorem Settled.after (h : c.Settled (c.after clock k n)) (hle : n ≤ m) :
    c.after clock k m = c.after clock k n := by
  obtain ⟨d, rfl⟩ := Nat.exists_eq_add_of_le hle
  clear hle
  induction d with
  | zero => rfl
  | succ d ih => rw [← Nat.add_assoc, Calm.after, ih, h]

theorem Settled.writes (h : c.Settled (c.after clock k n)) (hle : n ≤ m) :
    c.writes clock k m = [] := by
  rw [Calm.writes, h.after hle, h]

/-! ### What is stored before a pass, and after it -/

theorem pass_of_none (hstored : k.registry = none) :
    c.pass readings k = (c.runPart readings (Pass.bootstrap c.bootstrapSpec) (k, [])).2 := by
  unfold pass Pass.pass
  simp only [runPart_bind, runPart_ask, answer, World.named, hstored, Option.filter_none]

theorem pass_of_some (hstored : k.registry = some r) (hname : r.name = ImageRegistry.clusterName) :
    c.pass readings k = (c.runPart readings
      (if r.metadata.isDeleteRequested then Pass.finalize r else Pass.manage r) (k, [])).2 := by
  have hshown : World.named ImageRegistry.clusterName k.registry = some r := by
    rw [hstored, World.named, Option.filter_some, if_pos (decide_eq_true hname)]
  unfold pass Pass.pass
  simp only [runPart_bind, runPart_ask, answer, hshown]

theorem pass_of_deleting (hstored : k.registry = some r)
    (hname : r.name = ImageRegistry.clusterName) (hdelete : r.metadata.isDeleteRequested = true) :
    c.pass readings k = (c.runPart readings (Pass.finalize r) (k, [])).2 := by
  rw [pass_of_some readings hstored hname, if_pos hdelete]

theorem pass_of_stay (hstored : k.registry = some r) (hname : r.name = ImageRegistry.clusterName)
    (hstay : r.metadata.isDeleteRequested = false) :
    c.pass readings k = (c.runPart readings (Pass.manage r) (k, [])).2 := by
  rw [pass_of_some readings hstored hname, if_neg (Bool.eq_false_iff.mp hstay)]

theorem Tended.settled (h : c.Tended r) (hstored : k.registry = some r)
    (hname : r.name = ImageRegistry.clusterName) : c.Settled k := fun readings => by
  rw [pass_of_stay readings hstored hname h.stay, h.manage]

theorem settled_of_kept (hstored : k.registry = some r) (hname : r.name = ImageRegistry.clusterName)
    (hdelete : r.metadata.isDeleteRequested = true)
    (hkept : r.metadata.hasFinalizer ImageRegistry.finalizer = false ∨
      c.finalize r.spec ≠ .ok .complete) : c.Settled k := fun readings => by
  rw [pass_of_deleting readings hstored hname hdelete, finalize_of_kept readings hkept]

/-- One pass does all there is to do for a registry that is there to stay. -/
theorem settled_or_tended (hstored : k.registry = some r)
    (hname : r.name = ImageRegistry.clusterName) (hstay : r.metadata.isDeleteRequested = false) :
    c.Settled k ∨ ∃ y, (c.pass readings k).1.registry = some y ∧
      y.name = ImageRegistry.clusterName ∧ c.Tended y := by
  cases hdeployment : c.deployment with
  | error e =>
      refine .inl fun readings => ?_
      rw [pass_of_stay readings hstored hname hstay, c.manage_of_error readings hdeployment]
  | ok deployment =>
      obtain ⟨y, hy, hspec, hstatus, hmetadata⟩ :=
        c.manage_run readings (w := []) hdeployment hstored hstay
      refine .inr ⟨y, ?_, ?_, tended_of_manage readings hdeployment hstay hspec hstatus hmetadata⟩
      · rw [pass_of_stay readings hstored hname hstay]
        exact hy
      · rw [ImageRegistry.name, hmetadata, Metadata.addFinalizer_eq]
        exact hname

theorem settled_or_let_go (hstored : k.registry = some r)
    (hname : r.name = ImageRegistry.clusterName) (hdelete : r.metadata.isDeleteRequested = true) :
    c.Settled k ∨ (c.pass readings k).1.registry = none ∨
      ∃ x, (c.pass readings k).1.registry = some x ∧ x.name = ImageRegistry.clusterName ∧
        x.metadata.isDeleteRequested = true ∧
        x.metadata.hasFinalizer ImageRegistry.finalizer = false := by
  by_cases hkept : r.metadata.hasFinalizer ImageRegistry.finalizer = false ∨
      c.finalize r.spec ≠ .ok .complete
  · exact .inl (settled_of_kept hstored hname hdelete hkept)
  · rw [not_or, Bool.not_eq_false, not_not] at hkept
    rw [pass_of_deleting readings hstored hname hdelete, ← hname]
    exact .inr (c.finalize_run readings (w := []) hstored hdelete hkept.1 hkept.2)

theorem pass_creates (hstored : k.registry = none) :
    ∃ created, (c.pass readings k).1.registry = some created ∧
      created.name = ImageRegistry.clusterName ∧ created.metadata.isDeleteRequested = false := by
  obtain ⟨created, hwrite, hname, hstay⟩ :=
    Cluster.write_create (r := .bootstrap c.bootstrapSpec) hstored
  refine ⟨created, ?_, hname, hstay⟩
  rw [pass_of_none readings hstored, Pass.bootstrap]
  simp only [runPart_bind, runPart_report, runPart_ask, answer, hwrite]
  rfl

theorem Settled.settlesWithin (h : c.Settled k) (n : Nat) : c.SettlesWithin n k := by
  induction n with
  | zero => exact h
  | succ n ih => exact ih.succ

theorem settlesWithin_of_stay (hstored : k.registry = some r)
    (hname : r.name = ImageRegistry.clusterName) (hstay : r.metadata.isDeleteRequested = false) :
    c.SettlesWithin 1 k := fun readings => by
  rcases settled_or_tended readings hstored hname hstay with hsettled | ⟨y, hy, hyname, htended⟩
  · rw [hsettled readings]
    exact hsettled
  · exact htended.settled hy hyname

theorem settlesWithin_of_none (hstored : k.registry = none) : c.SettlesWithin 2 k := fun readings =>
  have ⟨_, hcreated, hname, hstay⟩ := pass_creates readings hstored
  settlesWithin_of_stay hcreated hname hstay

theorem settlesWithin_of_deleting (hstored : k.registry = some r)
    (hname : r.name = ImageRegistry.clusterName) (hdelete : r.metadata.isDeleteRequested = true) :
    c.SettlesWithin 3 k := fun readings => by
  -- At worst this pass lets the registry go, the next one creates it, and the third tends to it.
  rcases settled_or_let_go readings hstored hname hdelete with
    hsettled | hnone | ⟨x, hx, hxname, hxdelete, hxheld⟩
  · rw [hsettled readings]
    exact hsettled.settlesWithin 2
  · exact settlesWithin_of_none hnone
  · exact (settled_of_kept hx hxname hxdelete (.inl hxheld)).settlesWithin 2

end Calm

namespace Cluster.Named

variable {k : Cluster} (h : k.Named) (c : Calm)
include h

theorem settlesWithin : c.SettlesWithin 3 k := by
  cases hstored : k.registry with
  | none => exact .succ (Calm.settlesWithin_of_none hstored)
  | some r =>
      cases hdelete : r.metadata.isDeleteRequested with
      | false => exact .succ (.succ (Calm.settlesWithin_of_stay hstored (h r hstored) hdelete))
      | true => exact Calm.settlesWithin_of_deleting hstored (h r hstored) hdelete

theorem pass (readings : Readings) : (c.pass readings k).1.Named := by
  have of_stored {k' : Cluster} {x : ImageRegistry} (hx : k'.registry = some x)
      (hname : x.name = ImageRegistry.clusterName) : k'.Named := fun r hr => by
    cases hx.symm.trans hr
    exact hname
  have of_settled (hsettled : c.Settled k) : (c.pass readings k).1.Named := by
    rw [hsettled readings]
    exact h
  cases hstored : k.registry with
  | none =>
      obtain ⟨_, hcreated, hname, _⟩ := Calm.pass_creates (c := c) readings hstored
      exact of_stored hcreated hname
  | some r =>
      cases hdelete : r.metadata.isDeleteRequested with
      | false =>
          rcases Calm.settled_or_tended (c := c) readings hstored (h r hstored) hdelete with
            hsettled | ⟨_, hy, hname, _⟩
          · exact of_settled hsettled
          · exact of_stored hy hname
      | true =>
          rcases Calm.settled_or_let_go (c := c) readings hstored (h r hstored) hdelete with
            hsettled | hnone | ⟨_, hx, hname, _⟩
          · exact of_settled hsettled
          · exact fun r hr => by cases hnone.symm.trans hr
          · exact of_stored hx hname

theorem after (clock : Nat → Readings) (n : Nat) : (c.after clock k n).Named := by
  induction n with
  | zero => exact h
  | succ n ih => exact ih.pass c (clock n)

end Cluster.Named

/-- **Passes come to rest.** In a calm world the fourth pass and all after it write nothing and
leave what is stored as it is, whatever was stored at first, whatever comes of the calls, and
however the clock goes. Where the registry is there to stay, the next pass already finds nothing to
write. -/
theorem Calm.passes_come_to_rest (c : Calm) (clock : Nat → Readings) (k : Cluster)
    (hnamed : k.Named) :
    (∀ n, 3 ≤ n → c.writes clock k n = [] ∧ c.after clock k n = c.after clock k 3) ∧
    (∀ n r, (c.after clock k n).registry = some r → r.metadata.isDeleteRequested = false →
      ∀ m, n < m → c.writes clock k m = [] ∧ c.after clock k m = c.after clock k (n + 1)) := by
  constructor
  · intro n hle
    have hsettled : c.Settled (c.after clock k (0 + 3)) := (hnamed.settlesWithin c).after
    exact ⟨hsettled.writes hle, hsettled.after hle⟩
  · intro n r hstored hstay m hlt
    have hsettled : c.Settled (c.after clock k (n + 1)) :=
      (settlesWithin_of_stay hstored (hnamed.after c clock n r hstored) hstay).after
    exact ⟨hsettled.writes hlt, hsettled.after hlt⟩

/-- A registry that only the operator holds back, twice over. -/
def Cluster.leaving : Cluster where
  registry := some {
    metadata :=
      { name := some ImageRegistry.clusterName
        deletionTimestamp := some ⟨0, 0⟩
        finalizers := some [ImageRegistry.finalizer, ImageRegistry.finalizer]
        resourceVersion := some "7" } }

/-- It is let go, created anew and tended to, and then there is rest. -/
theorem Calm.passes_come_to_rest_leaving :
    let c : Calm := {}
    let clock (n : Nat) : Readings := fun _ => ⟨n, 0⟩
    Cluster.leaving.Named ∧ c.writes clock .leaving 0 = [.update] ∧
      c.writes clock .leaving 1 = [.create] ∧ c.writes clock .leaving 2 = [.update, .updateStatus] ∧
      ∀ n, 3 ≤ n → c.writes clock .leaving n = [] := by
  intro c clock
  have hnamed : Cluster.leaving.Named := fun r hr => by
    cases hr
    rfl
  exact ⟨hnamed, rfl, rfl, by decide +kernel,
    fun n hle => ((c.passes_come_to_rest clock .leaving hnamed).1 n hle).1⟩

end RegistryOperator
