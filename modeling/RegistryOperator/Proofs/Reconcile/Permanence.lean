import Mathlib.Tactic.SplitIfs
import RegistryOperator.Proofs.Program.Conversation
import RegistryOperator.Cluster.Site

/-! What cannot be mended by trying again. Whether applying a management state fails for good is
decided by the registry alone, before anything is sent: whatever the API server answers, whatever
the caches show and whatever the time is, the same registries fail for the same reasons. What a
request brings back, or that it brings nothing back, is always worth another try. -/

namespace RegistryOperator

variable {α β : Type}

/-- All that a pass can come across: the caches, the clock, and an API server that may answer
whatever it likes. -/
structure Environment where
  dependents : Dependents
  registry : String → Except ListerError (Option ImageRegistry)
  deployment : String → Except ListerError (Option Deployment)
  readings : Readings
  server : Responder api
  /-- What the API server was asked before, the latest first. -/
  past : List (Exchange api) := []

namespace Environment

/-- Runs a program that talks to the API server. -/
def talk (env : Environment) (p : Program api α) : StateM (List (Exchange api)) α :=
  p.run env.server.listen

def answer (env : Environment) : (q : PassQuestion) → StateM (List (Exchange api)) q.Answer
  | .registry name => pure (env.registry name)
  | .deployment name => pure (env.deployment name)
  | .apply r => env.talk (env.dependents.apply r.spec)
  | .remove _ => env.talk env.dependents.remove
  | .finalize _ => env.talk env.dependents.finalize
  | .write write r => env.talk (write.send r)
  | .readings => pure env.readings
  | .report _ => pure ()

/-- What comes of applying the management state of a registry, and all that the API server was
asked by then. -/
def applied (env : Environment) (r : ImageRegistry) : Applied × List (Exchange api) :=
  (Pass.applyState r).run env.answer env.past

end Environment

namespace Site

variable {R : Type}

/-- The server after it was asked some questions, the latest standing first. -/
def serverAfter (server : Server) : List (Exchange api) → Server
  | [] => server
  | e :: heard => ((serve e.1).run.run (serverAfter server heard)).2

/-- The server of a site as someone who answers. Where it never answers, the connection breaks. -/
def responder (server : Server) : Responder api := fun heard q =>
  ((serve q).run.run (serverAfter server heard)).1.getD <|
    match q with
    | .send _ => .error (.connection "")
    | .report _ => ()

/-- What the pass of a site comes across. -/
def environment [Quantity R] (w : Site R) : Environment where
  dependents := w.operator.dependents
  registry := w.operator.listers.registry
  deployment := w.operator.listers.deployment
  readings := w.readings
  server := responder w.server

theorem run_responder {server : Server} {p : Program api α} {heard : List (Exchange api)} {a : α}
    (h : ((p.run (I := api) serve).run (serverAfter server heard)).1 = some a) :
    (p.run (responder server).listen heard).1 = a := by
  induction p generalizing heard with
  | done b => exact Option.some.inj h
  | ask q next ih =>
      have hlisten : ((Program.ask q next).run (responder server).listen heard) =
          (next (responder server heard q)).run (responder server).listen
            (⟨q, responder server heard q⟩ :: heard) := rfl
      rw [hlisten]
      change (StateT.run (OptionT.run (serve q >>= fun answer =>
        (next answer).run (I := api) serve)) (serverAfter server heard)).1 = some a at h
      rw [OptionT.run_bind, Option.elimM, StateT.run_bind] at h
      match hserve : (serve q).run.run (serverAfter server heard) with
      | (none, _) =>
          rw [hserve] at h
          cases h
      | (some answer, server') =>
          have hanswer : responder server heard q = answer := by
            unfold responder
            rw [hserve]
            rfl
          have hafter : serverAfter server (⟨q, answer⟩ :: heard) = server' := by
            rw [serverAfter, hserve]
          rw [hserve] at h
          rw [hanswer]
          refine ih answer ?_
          rw [hafter]
          exact h

theorem talk_environment [Quantity R] (w : Site R) (p : Program api α) {a : α}
    (h : (w.talk p).1 = some a) : (w.environment.talk p []).1 = a :=
  run_responder h

/-- A site answers as its environment does. -/
theorem answer_environment [Quantity R] (w : Site R) {q : PassQuestion} {a : q.Answer}
    (h : (w.answer q).1 = some a) : (w.environment.answer q []).1 = a := by
  cases q with
  | registry name => exact Option.some.inj h
  | deployment name => exact Option.some.inj h
  | apply r => exact w.talk_environment (w.operator.dependents.apply r.spec) h
  | remove r => exact w.talk_environment w.operator.dependents.remove h
  | finalize r => exact w.talk_environment w.operator.dependents.finalize h
  | write write r => exact w.talk_environment (write.send r) h
  | readings => exact Option.some.inj h
  | report line => rfl

end Site

-- Which requests can be sent does not matter from here on.
attribute [local irreducible] Api.send

/-- Why a registry cannot be what it asks for, as far as it says itself. -/
def ImageRegistry.obstacle (r : ImageRegistry) : Option (PermanentReason × String) :=
  match r.spec.managementState with
  | .managed =>
    match r.spec.verify with
    | .error fault => some (.verificationFailed, fault.message)
    | .ok () =>
      if r.spec.storage.isConfigured then none
      else some (.storageNotConfigured, GeneratorError.storageNotConfigured.message)
  | _ => none

/-- An error that comes from a request. -/
def GeneratorError.IsRequest (e : GeneratorError) : Prop :=
  ∃ action kind name failure, e = .request action kind name failure

theorem ApplyError.ofGenerator_of_isRequest {e : GeneratorError} (he : e.IsRequest) :
    ApplyError.ofGenerator e = .transient e := by
  obtain ⟨action, kind, name, failure, rfl⟩ := he
  rfl

/-- A result that is all right, or fails because of a request. -/
def Honest (result : Except GeneratorError α) : Prop := ∀ e, result = .error e → e.IsRequest

theorem Honest.ok (a : α) : Honest (.ok a : Except GeneratorError α) := nofun

theorem Honest.failed (action : String) (kind : Kind) (failure : ApiFailure) :
    Honest (.error (Dependents.failed action kind failure) : Except GeneratorError α) := by
  intro e heq
  cases heq
  exact ⟨action, kind.name, registryName, failure, rfl⟩

/-- What a program ends with does not depend on what its first part was told. -/
theorem Program.Always.of_bind {I : Interface} {Q : β → Prop} {p : Program I α}
    {f : α → Program I β} (hf : ∀ a, (f a).Always fun b _ => Q b) :
    (p >>= f).Always fun b _ => Q b := by
  have hp : p.Always fun _ _ => True := by
    induction p with
    | done a => trivial
    | ask q next ih => exact fun answer => ih answer
  exact hp.bind fun a _ _ => hf a

namespace Dependents

open Program (Always)
variable (d : Dependents) (kind : Kind)

theorem ofSpec_of_configured {spec : RegistrySpec} (h : spec.storage.isConfigured = true) :
    ∃ deployment, RegistryDeployment.ofSpec spec d.ns d.image = .ok deployment := by
  rw [RegistryDeployment.ofSpec, if_pos h]
  exact ⟨_, rfl⟩

theorem apply_honest {spec : RegistrySpec} (h : spec.storage.isConfigured = true) :
    (d.apply spec).Always fun result _ => Honest result := by
  obtain ⟨deployment, hdeployment⟩ := d.ofSpec_of_configured h
  rw [apply, hdeployment]
  refine Always.of_bind fun reply => ?_
  cases Reply.object Deployment.decode reply with
  | error e => exact Honest.failed "apply" Deployment.kind e
  | ok _ =>
      refine Always.of_bind fun reply => ?_
      cases Reply.object decodeService reply with
      | error e => exact Honest.failed "apply" Kind.service e
      | ok _ => exact fun _ => Honest.ok ()

theorem delete_honest (decode : Decoder α) :
    (d.delete kind decode).Always fun result _ => Honest result := by
  unfold delete
  refine Always.of_bind fun reply => ?_
  cases Reply.deletion decode deletionReport reply with
  | ok _ => exact Honest.ok ()
  | error e =>
      dsimp only
      split_ifs
      · exact Honest.ok ()
      · exact Honest.failed "delete" kind e

theorem remove_honest : d.remove.Always fun result _ => Honest result := by
  unfold remove
  refine Always.bind (d.delete_honest Deployment.kind Deployment.decode) fun result _ hresult => ?_
  cases result with
  | error e => exact hresult
  | ok _ => exact d.delete_honest Kind.service decodeService

theorem apply_of_unconfigured {spec : RegistrySpec} (h : spec.storage.isConfigured = false) :
    d.apply spec = pure (.error .storageNotConfigured) := by
  rw [apply, RegistryDeployment.ofSpec, if_neg (ne_true_of_eq_false h)]

end Dependents

namespace Environment

variable (env : Environment) {r : ImageRegistry}

theorem run_honest {p : Program api (Except GeneratorError Unit)}
    (hp : p.Always fun result _ => Honest result) (heard : List (Exchange api)) :
    Honest (env.talk p heard).1 := by
  obtain ⟨_, _, hresult⟩ := hp.run env.server heard
  exact hresult

/-- An error that comes from a request may pass. -/
theorem mapError_honest {result : Except GeneratorError Unit} (h : Honest result) {e : ApplyError}
    (heq : result.mapError .ofGenerator = .error e) : e.isPermanent = false := by
  cases result with
  | ok _ => cases heq
  | error source =>
      have hsource : e = .ofGenerator source := by cases heq; rfl
      rw [hsource, ApplyError.ofGenerator_of_isRequest (h source rfl)]
      rfl

theorem applied_eq (r : ImageRegistry) : env.applied r =
    match r.spec.managementState with
    | .managed =>
      match r.spec.verify with
      | .error fault => (.error (.ofFault fault), env.past)
      | .ok () =>
        ((env.talk (env.dependents.apply r.spec) env.past).1.mapError .ofGenerator,
          (env.talk (env.dependents.apply r.spec) env.past).2)
    | .removed =>
      ((env.talk env.dependents.remove env.past).1.mapError .ofGenerator,
        (env.talk env.dependents.remove env.past).2)
    | _ => (.ok (), env.past) := by
  unfold applied Pass.applyState
  cases r.spec.managementState with
  | managed => cases r.spec.verify <;> rfl
  | _ => rfl

/-- The registry alone decides whether applying its state fails for good, and if it does then
nothing is sent. -/
theorem applied_spec (r : ImageRegistry) :
    match r.obstacle with
    | some (reason, text) => env.applied r = (.error (.permanent reason text), env.past)
    | none => ∀ e, (env.applied r).1 = .error e → e.isPermanent = false := by
  rw [applied_eq]
  unfold ImageRegistry.obstacle
  cases r.spec.managementState with
  | managed =>
      cases r.spec.verify with
      | error fault => rfl
      | ok _ =>
          dsimp only
          split_ifs with hconfigured
          · have honest := env.run_honest (env.dependents.apply_honest hconfigured) env.past
            exact fun e heq => mapError_honest honest heq
          · rw [env.dependents.apply_of_unconfigured (by simpa using hconfigured)]
            rfl
  | removed =>
      have honest := env.run_honest env.dependents.remove_honest env.past
      exact fun e heq => mapError_honest honest heq
  | _ => exact fun e heq => by cases heq

theorem applied_eq_permanent_iff {reason : PermanentReason} {text : String} :
    (env.applied r).1 = .error (.permanent reason text) ↔ r.obstacle = some (reason, text) := by
  have hspec := env.applied_spec r
  constructor
  · intro heq
    cases hobstacle : r.obstacle with
    | none =>
        rw [hobstacle] at hspec
        cases hspec _ heq
    | some cause =>
        rw [hobstacle] at hspec
        dsimp only at hspec
        rw [hspec] at heq
        cases heq
        rfl
  · intro hobstacle
    rw [hobstacle] at hspec
    rw [hspec]

end Environment

theorem ImageRegistry.obstacle_isSome_iff {r : ImageRegistry} :
    (∃ reason text, r.obstacle = some (reason, text)) ↔
      r.spec.managementState = .managed ∧
        (r.spec.verify ≠ .ok () ∨ r.spec.storage.isConfigured = false) := by
  unfold obstacle
  cases r.spec.managementState with
  | managed =>
      cases r.spec.verify with
      | error fault => simp
      | ok _ => cases r.spec.storage.isConfigured <;> simp
  | _ => simp

/-- **Permanent means permanent.** Whether applying the management state of a registry fails for
good, for which reason and with which text, is the same in all environments. It does if and only if
the registry is managed and either its spec has a fault or no storage backend is configured, and
then the API server is asked nothing. What goes wrong while the objects are applied or removed is
worth another try, unless the backend is missing. -/
theorem permanent_means_permanent (r : ImageRegistry) (env env' : Environment) :
    (∀ reason text, (env.applied r).1 = .error (.permanent reason text) ↔
      (env'.applied r).1 = .error (.permanent reason text)) ∧
    ((∃ reason text, (env.applied r).1 = .error (.permanent reason text)) ↔
      r.spec.managementState = .managed ∧
        (r.spec.verify ≠ .ok () ∨ r.spec.storage.isConfigured = false)) ∧
    (∀ reason text, (env.applied r).1 = .error (.permanent reason text) →
      (env.applied r).2 = env.past) ∧
    (∀ e, (env.talk (env.dependents.apply r.spec) env.past).1 = .error e →
      (ApplyError.ofGenerator e).isPermanent = true →
        r.spec.storage.isConfigured = false ∧
        (env.talk (env.dependents.apply r.spec) env.past).2 = env.past) ∧
    (∀ e, (env.talk env.dependents.remove env.past).1 = .error e →
      (ApplyError.ofGenerator e).isPermanent = false) := by
  refine ⟨fun reason text => ?_, ?_, fun reason text heq => ?_, fun e heq hpermanent => ?_,
    fun e heq => ?_⟩
  · rw [env.applied_eq_permanent_iff, env'.applied_eq_permanent_iff]
  · simp only [env.applied_eq_permanent_iff]
    exact r.obstacle_isSome_iff
  · have hspec := env.applied_spec r
    rw [env.applied_eq_permanent_iff.mp heq] at hspec
    rw [hspec]
  · cases hconfigured : r.spec.storage.isConfigured with
    | true =>
        have honest := env.run_honest (env.dependents.apply_honest hconfigured) env.past e heq
        rw [ApplyError.ofGenerator_of_isRequest honest] at hpermanent
        cases hpermanent
    | false =>
        refine ⟨rfl, ?_⟩
        rw [env.dependents.apply_of_unconfigured hconfigured]
        rfl
  · rw [ApplyError.ofGenerator_of_isRequest (env.run_honest env.dependents.remove_honest _ e heq)]
    rfl

end RegistryOperator
