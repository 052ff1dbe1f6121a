import RegistryOperator.Proofs.Program.Conversation
import RegistryOperator.Proofs.Reconcile.Observation
import RegistryOperator.Proofs.Resource.Finalizers
import RegistryOperator.Reconcile.Pass

/-! The minutes of a pass over a registry that is to stay: what the store accepted, what came of
applying the state, and whether anything went wrong besides. The minutes are taken from the
questions and answers alone. A pass that reports success has its outcome in them, and one that was
hindered reports an error. -/

namespace RegistryOperator

/-- What is noted down during a pass over a registry. -/
structure Minutes where
  /-- The registry as the cache showed it, with the writes that the store accepted since. -/
  record : ImageRegistry
  /-- What came of applying the management state. -/
  applied : Applied
  /-- Whether the deployment could not be looked up, or a write failed. -/
  hindered : Bool := false

namespace Minutes

/-- The minutes before anything was asked. A spec with faults is not acted upon, and where nothing
is to be done nothing can fail. -/
def start (r : ImageRegistry) : Minutes where
  record := r
  applied := match r.spec.managementState with
    | .managed => r.spec.verify.mapError .ofFault
    | _ => .ok ()

def note (m : Minutes) : (q : PassQuestion) → q.Answer → Minutes
  | .apply _, answer => { m with applied := answer.mapError .ofGenerator }
  | .remove _, answer => { m with applied := answer.mapError .ofGenerator }
  | .deployment _, .error _ => { m with hindered := true }
  | .write _ _, .error _ => { m with hindered := true }
  | .write .update r, .ok stored =>
    { m with
      record.metadata := { r.metadata with resourceVersion := stored.metadata.resourceVersion }
      record.spec := r.spec }
  | .write .updateStatus r, .ok _ => { m with record.status := r.status }
  | _, _ => m

/-- Everything may be asked, and all of it is noted. -/
def protocol : Protocol surroundings Minutes := ⟨fun _ _ => True, note⟩

/-- The record has the finalizer and a status for the generation that was shown, and in this status
stands what came of applying the state. -/
structure Covers (m : Minutes) (shown : ImageRegistry) : Prop where
  finalizer : m.record.metadata.hasFinalizer ImageRegistry.finalizer = true
  status : ∃ status, m.record.status = some status ∧
    status.observedGeneration = shown.metadata.specGeneration ∧
    ∃ v, Verdict.ofApplied m.applied = [v] ∧ v.Stands status.conditions

/-- What a result says about the minutes. -/
structure Bears (shown : ImageRegistry) (result : Except PassError Unit) (m : Minutes) : Prop where
  covers : result = .ok () → m.Covers shown
  error : m.hindered = true ∨ (∃ e, m.applied = .error (.transient e)) → ∃ e, result = .error e

theorem Bears.of_error (shown : ImageRegistry) (e : PassError) (m : Minutes) :
    Bears shown (.error e) m :=
  ⟨nofun, fun _ => ⟨e, rfl⟩⟩

end Minutes

namespace Pass

open Program (Obeys)
open Minutes (protocol)

/-- A part of a pass turns some minutes into others, which go with its result. -/
abbrev Notes {α : Type} (m : Minutes) (p : PassProgram α) (Q : α → Minutes → Prop) : Prop :=
  Obeys protocol Q m p

variable {α : Type} {m : Minutes} {previous r : ImageRegistry} {Q : α → Minutes → Prop}

theorem converse_ask_bind (answer : Responder surroundings) (q : PassQuestion)
    (next : q.Answer → PassProgram α) :
    (ask q >>= next).converse answer = (next (answer [] q)).run answer.listen [⟨q, answer [] q⟩] := rfl

theorem Notes.ask_bind {q : PassQuestion} {next : q.Answer → PassProgram α}
    (hnext : ∀ answer, Notes (m.note q answer) (next answer) Q) : Notes m (ask q >>= next) Q :=
  Obeys.question_bind trivial hnext

theorem Notes.report_bind {level : LogLevel} {message : String} {next : Unit → PassProgram α}
    (hnext : Notes m (next ()) Q) : Notes m (report level message >>= next) Q :=
  .ask_bind fun _ => hnext

theorem Notes.reportFailure_bind {what name : String} {e : StoreError}
    {next : Unit → PassProgram α} (hnext : Notes m (next ()) Q) :
    Notes m (reportFailure what name e >>= next) Q := by
  unfold reportFailure
  split_ifs
  · exact hnext
  · exact .report_bind hnext

theorem applyState_notes (r : ImageRegistry) (hm : m.applied = (Minutes.start r).applied) :
    Notes m (applyState r) fun applied m' => m' = { m with applied } := by
  have hsame : ∀ applied, (Minutes.start r).applied = applied → m = { m with applied } := by
    rintro _ rfl
    rw [← hm]
  unfold applyState
  cases hstate : r.spec.managementState with
  | managed =>
      dsimp only
      cases hverify : r.spec.verify with
      | error fault => exact .pure (hsame _ (by simp [Minutes.start, hstate, hverify, Except.mapError]))
      | ok _ => exact .ask_bind fun answer => .pure rfl
  | removed => exact .ask_bind fun answer => .pure rfl
  | unmanaged => exact .pure (hsame _ (by simp [Minutes.start, hstate]))
  | unknown word => exact .report_bind (.pure (hsame _ (by simp [Minutes.start, hstate])))

/-- What is not written is on record already. -/
theorem persistObject_notes (hmetadata : m.record.metadata = previous.metadata)
    (hspec : m.record.spec = previous.spec) :
    Notes m (persistObject previous r) fun result m' =>
      (∀ e, result = .error e → m'.hindered = true) ∧
      ∀ r', result = .ok r' → r'.status = r.status ∧
        r'.metadata.finalizers = r.metadata.finalizers ∧
        m' = { m with record.metadata := r'.metadata, record.spec := r.spec } := by
  unfold persistObject
  split_ifs with hsame
  · refine .pure ⟨nofun, fun r' heq => ?_⟩
    cases heq
    refine ⟨rfl, rfl, ?_⟩
    rw [hsame.1, hsame.2, ← hmetadata, ← hspec]
  · refine .report_bind (.ask_bind fun answer => ?_)
    cases answer with
    | error e => exact .reportFailure_bind (.pure ⟨fun _ _ => rfl, fun r' heq => by cases heq⟩)
    | ok stored =>
        refine .pure ⟨nofun, fun r' heq => ?_⟩
        cases heq
        exact ⟨rfl, rfl, rfl⟩

theorem persistStatus_notes (hstatus : m.record.status = previous.status) :
    Notes m (persistStatus previous r) fun result m' =>
      (∀ e, result = .error e → m'.hindered = true) ∧
      (result = .ok () → m' = { m with record.status := r.status }) := by
  unfold persistStatus
  split_ifs with hsame
  · refine .pure ⟨nofun, fun _ => ?_⟩
    rw [hsame, ← hstatus]
  · refine .ask_bind fun answer => ?_
    cases answer with
    | error e => exact .reportFailure_bind (.pure ⟨fun _ _ => rfl, nofun⟩)
    | ok stored => exact .pure ⟨nofun, fun _ => rfl⟩

/-- After both writes the record is what was to be written, but for the version. -/
theorem persist_notes (hrecord : m.record = previous) :
    Notes m (persist previous r) fun result m' =>
      (∀ e, result = .error e → m'.hindered = true) ∧
      (result = .ok () → ∃ metadata : Metadata, metadata.finalizers = r.metadata.finalizers ∧
        m' = { m with record := ⟨metadata, r.spec, r.status⟩ }) := by
  subst hrecord
  unfold persist
  refine (persistObject_notes rfl rfl).bind fun result m' ⟨hfailed, hwritten⟩ => ?_
  cases result with
  | error e => exact .pure ⟨fun _ _ => hfailed e rfl, nofun⟩
  | ok r' =>
      obtain ⟨hstatus, hfinalizers, rfl⟩ := hwritten r' rfl
      refine (persistStatus_notes rfl).mono fun result m' ⟨hfailed, hwritten⟩ => ⟨hfailed, ?_⟩
      intro hresult
      exact ⟨r'.metadata, hfinalizers, by rw [hwritten hresult, hstatus]⟩

theorem conclude_notes {shown : ImageRegistry} {applied : Applied} (happlied : m.applied = applied)
    (hhindered : m.hindered = false)
    (hcovers : ∀ v, Verdict.ofApplied applied = [v] → m.Covers shown) :
    Notes m (conclude applied) (Minutes.Bears shown) := by
  unfold conclude
  match applied with
  | .ok () =>
      refine .pure ⟨fun _ => hcovers _ rfl, ?_⟩
      simp [hhindered, happlied]
  | .error (.permanent reason text) =>
      refine .report_bind (.pure ⟨fun _ => hcovers _ rfl, ?_⟩)
      simp [hhindered, happlied]
  | .error (.transient source) => exact .pure (.of_error _ _ _)

/-- **What a pass reports agrees with its minutes**, whatever is answered. -/
theorem manage_notes (shown : ImageRegistry) :
    Notes (.start shown) (manage shown) (Minutes.Bears shown) := by
  unfold manage
  let r := { shown with metadata := shown.metadata.addFinalizer ImageRegistry.finalizer }
  refine Obeys.bind (applyState_notes r rfl) fun applied m hm => ?_
  subst hm
  refine Notes.ask_bind fun answer => ?_
  cases answer with
  | error e => exact .pure (.of_error _ _ _)
  | ok deployment =>
      refine Notes.ask_bind fun readings => ?_
      refine Obeys.bind (persist_notes rfl) fun result m ⟨_, hwritten⟩ => ?_
      cases result with
      | error e => exact .pure (.of_error _ _ _)
      | ok _ =>
          obtain ⟨metadata, hfinalizers, rfl⟩ := hwritten rfl
          have hfinalizer : metadata.hasFinalizer ImageRegistry.finalizer = true :=
            (Metadata.hasFinalizer_congr _ hfinalizers).trans (Metadata.hasFinalizer_addFinalizer _ _)
          refine conclude_notes rfl rfl fun v hv => ⟨hfinalizer, _, rfl, ?_, v, hv, ?_⟩
          · exact Metadata.addFinalizer_specGeneration _ _
          · exact RegistryStatus.observe_stands _ _ _ _ _ _ v (by simp [hv])

end Pass

namespace Minutes

/-- **Success is recorded.** If a pass over a registry that is to stay reports success, then the
registry as it was shown, with the writes that were accepted, has the finalizer, and a status for
the generation that was shown, whose first condition about degradation says what came of applying
the state: that all is as expected, or why it fails for good. If applying the state failed in a way
that may pass, the deployment could not be looked up or a write failed, the pass reports an error.
-/
theorem success_is_recorded (bootstrapSpec : RegistrySpec) {shown : ImageRegistry}
    (hstay : shown.metadata.isDeleteRequested = false) (answer : Responder surroundings)
    (hshown : answer [] (.registry ImageRegistry.clusterName) = .ok (some shown)) :
    let ended := (Pass.pass bootstrapSpec).converse answer
    let m := protocol.after (start shown) ended.2
    (ended.1 = .ok () →
      m.record.metadata.hasFinalizer ImageRegistry.finalizer = true ∧
      ∃ status degraded, m.record.status = some status ∧
        status.observedGeneration = shown.metadata.specGeneration ∧
        Condition.find Aspect.degraded.type status.conditions = some degraded ∧
        (m.applied = .ok () ∧ degraded.Tells .no "AsExpected" "" ∨
          ∃ reason text, m.applied = .error (.permanent reason text) ∧
            degraded.Tells .yes reason.word text)) ∧
    (m.hindered = true ∨ (∃ e, m.applied = .error (.transient e)) → ∃ e, ended.1 = .error e) := by
  intro ended m
  have hended : ended = (Pass.manage shown).run answer.listen
      [⟨.registry ImageRegistry.clusterName, .ok (some shown)⟩] := by
    change (Pass.pass bootstrapSpec).converse answer = _
    rw [Pass.pass, Pass.converse_ask_bind, hshown]
    dsimp only
    rw [hstay, if_neg Bool.false_ne_true]
  have hbears : Bears shown ended.1 m := by
    change Bears shown ended.1 (protocol.after (start shown) ended.2)
    rw [hended]
    exact Program.Obeys.run (s := start shown) (Pass.manage_notes shown) answer
  refine ⟨fun hok => ?_, hbears.error⟩
  obtain ⟨hfinalizer, status, hstatus, hgeneration, v, hv, degraded, hfind, htells⟩ :=
    hbears.covers hok
  refine ⟨hfinalizer, status, degraded, hstatus, hgeneration, ?_⟩
  match happlied : m.applied with
  | .ok () =>
      rw [happlied] at hv
      cases hv
      exact ⟨hfind, Or.inl ⟨rfl, htells⟩⟩
  | .error (.permanent reason text) =>
      rw [happlied] at hv
      cases hv
      exact ⟨hfind, Or.inr ⟨reason, text, rfl, htells⟩⟩
  | .error (.transient source) =>
      rw [happlied] at hv
      cases hv

/-- A managed registry without storage. -/
def unstored : ImageRegistry where
  metadata :=
    { name := some ImageRegistry.clusterName, generation := some 3, resourceVersion := some "7" }

/-- The cache shows that registry, the generator misses the storage, and every write is accepted. -/
def missingStorage : Responder surroundings
  | _, .registry _ => .ok (some unstored)
  | _, .deployment _ => .ok none
  | _, .apply _ => .error .storageNotConfigured
  | _, .remove _ => .ok ()
  | _, .finalize _ => .ok .pending
  | _, .write _ r => .ok r
  | _, .readings => fun _ => ⟨0, 0⟩
  | _, .report _ => ()

theorem success_is_recorded_missingStorage :
    unstored.metadata.isDeleteRequested = false ∧
    missingStorage [] (.registry ImageRegistry.clusterName) = .ok (some unstored) ∧
    ((Pass.pass {}).converse missingStorage).1 = .ok () ∧
    ∃ status degraded,
      (protocol.after (start unstored) ((Pass.pass {}).converse missingStorage).2).record.status =
        some status ∧
      status.observedGeneration = 3 ∧
      Condition.find "Degraded" status.conditions = some degraded ∧
      degraded.Tells .yes "StorageNotConfigured" "storage backend is not configured" := by
  have hok : ((Pass.pass {}).converse missingStorage).1 = .ok () := rfl
  obtain ⟨hcovers, _⟩ := @success_is_recorded {} unstored rfl missingStorage rfl
  obtain ⟨_, status, degraded, hstatus, hgeneration, hfind, htells⟩ := hcovers hok
  refine ⟨rfl, rfl, hok, status, degraded, hstatus, hgeneration, hfind, ?_⟩
  rcases htells with ⟨happlied, _⟩ | ⟨reason, text, happlied, htells⟩
  · cases happlied
  · cases happlied
    exact htells

end Minutes
end RegistryOperator
