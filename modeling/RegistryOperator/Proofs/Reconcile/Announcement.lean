import RegistryOperator.Proofs.Reconcile.Edit

/-! What a pass reports before it writes metadata and spec. It writes them only right after it
reported which changes it makes. Of a registry that was without the operator's finalizer, the report
reads that the finalizer was added, and for the rest what the pass makes of the status. -/

namespace RegistryOperator

/-- The report of a registry that changed. -/
def changeReport (r : ImageRegistry) (text : String) : LogLine :=
  ⟨.info, s!"object changed: ImageRegistry '{r.name}':\n{text}"⟩

/-- The registry is what a pass makes of the one that is shown, and its changes are the last thing
that was reported. -/
structure Announced (shown r : ImageRegistry) (last : Option LogLine) : Prop where
  observed : ∃ readings deployment applied, r = shown.held.observed readings deployment applied
  reported : last = some (changeReport r (Json.describeChanges shown.toJson r.toJson))

namespace Announced

/-- Only a registry that was announced just before is written. -/
def Allows (shown : ImageRegistry) (last : Option LogLine) : PassQuestion → Prop
  | .write .update r => Announced shown r last
  | _ => True

/-- What was asked last, if it was a report. -/
def last : PassQuestion → Option LogLine
  | .report line => some line
  | _ => none

def protocol (shown : ImageRegistry) : Protocol surroundings (Option LogLine) :=
  ⟨Allows shown, fun _ q _ => last q⟩

end Announced

namespace Pass

open Program (Obeys Leads)

/-- A part of a pass announces what it writes. -/
abbrev Announces {α : Type} (shown : ImageRegistry) (last : Option LogLine) (p : PassProgram α) :
    Prop :=
  Obeys (Announced.protocol shown) (fun _ _ => True) last p

variable {α : Type} {shown r : ImageRegistry} {last : Option LogLine}

theorem Announces.pure {a : α} : Announces shown last (pure a : PassProgram α) := Obeys.pure trivial

theorem Announces.bind {β : Type} {p : PassProgram α} {f : α → PassProgram β}
    (hp : Announces shown last p) (hf : ∀ a last', Announces shown last' (f a)) :
    Announces shown last (p >>= f) :=
  Obeys.bind hp fun a last' _ => hf a last'

theorem Announces.ask_bind {q : PassQuestion} {next : q.Answer → PassProgram α}
    (hq : Announced.Allows shown last q)
    (hnext : ∀ answer, Announces shown (Announced.last q) (next answer)) :
    Announces shown last (ask q >>= next) :=
  Obeys.question_bind hq hnext

theorem Announces.report {level : LogLevel} {message : String} :
    Announces shown last (report level message) :=
  ⟨trivial, fun _ => trivial⟩

theorem applyState_announces (r : ImageRegistry) : Announces shown last (applyState r) := by
  unfold applyState
  cases r.spec.managementState with
  | managed =>
      dsimp only
      cases r.spec.verify with
      | error fault => exact .pure
      | ok _ => exact .ask_bind trivial fun _ => .pure
  | removed => exact .ask_bind trivial fun _ => .pure
  | unmanaged => exact .pure
  | unknown word => exact .bind .report fun _ _ => .pure

theorem reportFailure_announces (what name : String) (e : StoreError) :
    Announces shown last (reportFailure what name e) := by
  unfold reportFailure
  split_ifs
  · exact .pure
  · exact .report

theorem persistObject_announces
    (hobserved : ∃ readings deployment applied, r = shown.held.observed readings deployment applied) :
    Announces shown last (persistObject shown r) := by
  unfold persistObject
  split_ifs
  · exact .pure
  · refine .ask_bind trivial fun _ => .ask_bind ⟨hobserved, rfl⟩ fun answer => ?_
    cases answer with
    | error e => exact .bind (reportFailure_announces _ _ e) fun _ _ => .pure
    | ok stored => exact .pure

theorem persistStatus_announces (previous r : ImageRegistry) :
    Announces shown last (persistStatus previous r) := by
  unfold persistStatus
  split_ifs
  · exact .pure
  · refine .ask_bind trivial fun answer => ?_
    cases answer with
    | error e => exact .bind (reportFailure_announces _ _ e) fun _ _ => .pure
    | ok stored => exact .pure

theorem conclude_announces (applied : Applied) : Announces shown last (conclude applied) := by
  unfold conclude
  cases applied with
  | ok _ => exact .pure
  | error e =>
      dsimp only
      split_ifs
      · exact .bind .report fun _ _ => .pure
      · exact .pure

/-- **A pass over a registry that is to stay announces what it writes**, whatever is answered. -/
theorem manage_announces (shown : ImageRegistry) : Announces shown last (manage shown) := by
  unfold manage
  refine (applyState_announces shown.held).bind fun applied _ => .ask_bind trivial fun answer => ?_
  cases answer with
  | error e => exact .pure
  | ok deployment =>
      refine .ask_bind trivial fun readings => ?_
      unfold persist
      refine .bind (.bind (persistObject_announces ⟨readings, deployment, applied, rfl⟩) ?_) ?_
      · intro result _
        cases result with
        | error e => exact .pure
        | ok r => exact persistStatus_announces shown r
      · intro result _
        cases result with
        | error e => exact .pure
        | ok _ => exact conclude_announces applied

/-- At the question that writes metadata and spec, the last exchange was the report of the changes. -/
theorem announced_of_leads {p : PassProgram α} {heard : List (Exchange surroundings)}
    {next : (PassQuestion.write .update r).Answer → PassProgram α}
    (hleads : Leads p heard (.ask (.write .update r) next)) (hp : Announces shown none p) :
    ∃ line before, heard = ⟨.report line, ()⟩ :: before ∧ Announced shown r (some line) := by
  have hannounced : Announced shown r ((Announced.protocol shown).after none heard) :=
    (hleads.obeys hp).1
  cases heard with
  | nil => cases hannounced.reported
  | cons e before =>
      obtain ⟨q, answer⟩ := e
      cases q with
      | report line => exact ⟨line, before, rfl, hannounced⟩
      | _ => cases hannounced.reported

/-- A registry that lacks the finalizer is written. -/
theorem persist_eq (hfree : shown.metadata.hasFinalizer ImageRegistry.finalizer = false)
    (hmetadata : r.metadata = shown.held.metadata) :
    ∃ next, persist shown r =
      .ask (.report (changeReport r (Json.describeChanges shown.toJson r.toJson))) fun _ =>
        .ask (.write .update r) next := by
  have hheld : r.metadata.hasFinalizer ImageRegistry.finalizer = true := by
    rw [hmetadata]
    exact shown.metadata.hasFinalizer_addFinalizer _
  have hchanged : ¬ (r.metadata = shown.metadata ∧ r.spec = shown.spec) := by
    rintro ⟨hsame, -⟩
    rw [hsame, hfree] at hheld
    cases hheld
  rw [persist, persistObject, if_neg hchanged]
  exact ⟨_, rfl⟩

/-- **The report names the operator's own edit.** For a registry that is to stay and lacks the
operator's finalizer: whatever the pass finds out, it reports the changes and then writes. And
whatever was answered, metadata and spec are written only right after such a report. -/
theorem own_edit_is_reported (spec : RegistrySpec) {shown : ImageRegistry}
    (hstay : shown.metadata.isDeleteRequested = false)
    (hfree : shown.metadata.hasFinalizer ImageRegistry.finalizer = false)
    (htidy : shown.metadata.Tidy) :
    (∀ readings deployment applied,
      let r := shown.held.observed readings deployment applied
      ∃ text next, persist shown r = .ask (.report (changeReport r text)) (fun _ =>
        .ask (.write .update r) next) ∧ ImageRegistry.OwnEdit shown r text) ∧
    ∀ (heard : List (Exchange surroundings)) (r : ImageRegistry)
      (next : (PassQuestion.write .update r).Answer → PassProgram (Except PassError Unit)),
      Leads (pass spec) (heard ++ [⟨.registry ImageRegistry.clusterName, .ok (some shown)⟩])
        (.ask (.write .update r) next) →
      ∃ text before, heard = ⟨.report (changeReport r text), ()⟩ :: before ∧
        ImageRegistry.OwnEdit shown r text := by
  refine ⟨fun readings deployment applied => ?_, fun heard r next hleads => ?_⟩
  · obtain ⟨next, hpersist⟩ := persist_eq (r := shown.held.observed readings deployment applied)
      hfree rfl
    exact ⟨_, next, hpersist, ImageRegistry.ownEdit htidy hfree readings deployment applied⟩
  · have hmanage : Leads (manage shown) heard (.ask (.write .update r) next) := by
      rcases hleads.of_ask with ⟨hnil, -⟩ | ⟨answer, later, heq, hlater⟩
      · cases List.append_ne_nil_of_right_ne_nil _ (List.cons_ne_nil _ _) hnil
      · obtain ⟨rfl, hlast⟩ := List.append_inj' heq rfl
        cases hlast
        have hbranch : Leads (if shown.metadata.isDeleteRequested then finalize shown
          else manage shown) heard (.ask (.write .update r) next) := hlater
        rwa [if_neg (ne_true_of_eq_false hstay)] at hbranch
    obtain ⟨line, before, rfl, hannounced⟩ :=
      announced_of_leads hmanage (manage_announces shown)
    obtain ⟨readings, deployment, applied, rfl⟩ := hannounced.observed
    cases hannounced.reported
    exact ⟨_, before, rfl, ImageRegistry.ownEdit htidy hfree readings deployment applied⟩

/-- A registry that others hold, with what the server keeps of who writes it. -/
def heldByOthers : ImageRegistry where
  metadata :=
    { name := some ImageRegistry.clusterName
      generation := some 3
      finalizers := some ["example.com/audit", "example.com/backup"]
      managedFields := some [{
        apiVersion := none
        fieldsType := some "FieldsV1"
        fields := some (.obj [("f:spec", .obj [("f:replicas", .obj []), ("f:storage", .arr [])])])
        manager := some "kubectl"
        operation := none
        subresource := none
        time := none }] }
  spec := { managementState := .unmanaged }
  status := some { observedGeneration := 2 }

/-- The finalizer is a third one, and the status was that of an older generation. -/
theorem own_edit_is_reported_heldByOthers :
    let shown := heldByOthers
    let r := shown.held.observed (fun _ => ⟨0, 0⟩) none (.ok ())
    shown.metadata.isDeleteRequested = false ∧
    shown.metadata.hasFinalizer ImageRegistry.finalizer = false ∧ shown.metadata.Tidy ∧
    ∃ text next, persist shown r = .ask (.report (changeReport r text)) (fun _ =>
      .ask (.write .update r) next) ∧ ImageRegistry.OwnEdit shown r text ∧
    (linesOf text).filter (fun line => Json.Within "/metadata" (pathOf line)) =
      ["add /metadata/finalizers/2: \"registry.operator.dev/registry\""] ∧
    ∃ line ∈ linesOf text, Json.Within "/status" (pathOf line) := by
  intro shown r
  have hstay : shown.metadata.isDeleteRequested = false := rfl
  have hfree : shown.metadata.hasFinalizer ImageRegistry.finalizer = false := by decide
  have htidy : shown.metadata.Tidy := by
    simp [shown, heldByOthers, Metadata.Tidy, Json.Tidy, Json.TidyMembers, Json.TidyItems]
  obtain ⟨hreports, -⟩ := own_edit_is_reported shown.spec hstay hfree htidy
  obtain ⟨text, next, hpersist, hedit⟩ := hreports (fun _ => ⟨0, 0⟩) none (.ok ())
  have hchanged : r.status ≠ shown.status := by
    intro hsame
    have hgeneration := congrArg (Option.map RegistryStatus.observedGeneration) hsame
    exact absurd hgeneration (by decide)
  refine ⟨hstay, hfree, htidy, text, next, hpersist, hedit, hedit.own.trans rfl, ?_⟩
  by_contra hnone
  push Not at hnone
  exact hchanged (hedit.status_iff.mp hnone)

end Pass
end RegistryOperator
