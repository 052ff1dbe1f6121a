import Mathlib.Tactic.SplitIfs
import RegistryOperator.Proofs.Program.Protocol
import RegistryOperator.Proofs.Resource.Finalizers
import RegistryOperator.Reconcile.Pass

/-! What a pass bases its writes on. It looks into the cache once, before all else, and from there on
each write carries either the version it saw then or, after its own write of metadata and spec, the
version that this write was given. After an error, or a write of the status, it writes no more. -/

namespace RegistryOperator

/-- What a pass may base its next write on. -/
inductive Footing
  | unread
  | absent
  | shown (base : ImageRegistry)
  /-- The cache shows this registry, and the objects that it needs are gone. -/
  | cleared (base : ImageRegistry)
  /-- The cache shows this registry; its metadata and spec were written, and it has this version
  since. -/
  | renewed (base : ImageRegistry) (version : Option String)
  | spent

namespace Footing

def base? : Footing → Option ImageRegistry
  | .shown base => some base
  | .cleared base => some base
  | .renewed base _ => some base
  | _ => none

/-- Writes of metadata and spec: a registry that is to stay gets the finalizer, one that is to go
and has nothing left loses it. -/
def Updates : Footing → ImageRegistry → Prop
  | .shown base, r =>
    base.metadata.isDeleteRequested = false ∧
      r.metadata = base.metadata.addFinalizer ImageRegistry.finalizer ∧ r.spec = base.spec
  | .cleared base, r =>
    base.metadata.isDeleteRequested = true ∧
      r.metadata = base.metadata.removeFinalizer ImageRegistry.finalizer ∧ r.spec = base.spec
  | _, _ => False

/-- Writes of the status, of a registry as it was shown or as it was written. -/
def UpdatesStatus : Footing → ImageRegistry → Prop
  | .shown base, r =>
    base.metadata.isDeleteRequested = false ∧ r.metadata = base.metadata ∧ r.spec = base.spec
  | .renewed base version, r =>
    base.metadata.isDeleteRequested = false ∧ r.metadata.resourceVersion = version ∧
      r.spec = base.spec
  | _, _ => False

def Allows (f : Footing) : PassQuestion → Prop
  | .registry name => f = .unread ∧ name = ImageRegistry.clusterName
  | .finalize r => f = .shown r ∧ r.metadata.isDeleteRequested = true
  | .write .create _ => f = .absent
  | .write .update r => f.Updates r
  | .write .updateStatus r => f.UpdatesStatus r
  | _ => f ≠ .unread

def next : Footing → (q : PassQuestion) → q.Answer → Footing
  | .unread, .registry _, .ok (some r) => .shown r
  | .unread, .registry _, .ok none => .absent
  | .unread, _, _ => .spent
  | .shown base, .finalize _, .ok .complete => .cleared base
  | .shown base, .write .update _, .ok stored => .renewed base stored.metadata.resourceVersion
  | _, .write _ _, _ => .spent
  | f, _, _ => f

def protocol : Protocol surroundings Footing := ⟨Allows, next⟩

variable {f : Footing} {q : PassQuestion} {base : ImageRegistry}

theorem next_ne_unread (f : Footing) (q : PassQuestion) (answer : q.Answer) :
    f.next q answer ≠ .unread := by
  unfold next
  split <;> simp_all

theorem base?_of_next {answer : q.Answer} (hf : f ≠ .unread)
    (hbase : (f.next q answer).base? = some base) : f.base? = some base := by
  unfold next at hbase
  split at hbase <;> simp_all [base?]

theorem registry_of_base? {answer : q.Answer}
    (hbase : (Footing.unread.next q answer).base? = some base) :
    ∃ name, (⟨q, answer⟩ : Exchange surroundings) = ⟨.registry name, .ok (some base)⟩ := by
  cases q with
  | registry name =>
      match answer with
      | .error _ => cases hbase
      | .ok none => cases hbase
      | .ok (some r) =>
          cases hbase
          exact ⟨name, rfl⟩
  | _ => cases hbase

end Footing

namespace Pass

open Program (Obeys)
open Footing (protocol)

/-- A part of a pass keeps to the protocol from a footing on, and ends on a footing that goes with its
result. -/
abbrev Treads {α : Type} (f : Footing) (p : PassProgram α) (Q : α → Footing → Prop) : Prop :=
  Obeys protocol Q f p

variable {α β : Type} {f : Footing} {base r : ImageRegistry} {Q : α → Footing → Prop}

theorem Treads.ask_bind {q : PassQuestion} {next : q.Answer → PassProgram α} (hq : f.Allows q)
    (hnext : ∀ answer, Treads (f.next q answer) (next answer) Q) : Treads f (ask q >>= next) Q :=
  Obeys.question_bind hq hnext

theorem Treads.report_bind {level : LogLevel} {message : String} {next : Unit → PassProgram α}
    (hf : f ≠ .unread) (hnext : Treads f (next ()) Q) :
    Treads f (report level message >>= next) Q := by
  have hsame : f.next (.report ⟨level, message⟩) () = f := by
    cases f with
    | unread => exact absurd rfl hf
    | _ => rfl
  refine .ask_bind hf fun answer => ?_
  cases answer
  rw [hsame]
  exact hnext

theorem bootstrap_treads (spec : RegistrySpec) :
    Treads .absent (bootstrap spec) fun _ _ => True := by
  unfold bootstrap
  refine .report_bind (by simp) (.ask_bind rfl fun answer => ?_)
  cases answer with
  | ok _ => exact .pure trivial
  | error e =>
      dsimp only
      split_ifs
      · exact .report_bind (by simp [Footing.next]) (.pure trivial)
      · exact .pure trivial

theorem finalize_treads (hdelete : base.metadata.isDeleteRequested = true) :
    Treads (.shown base) (finalize base) fun _ _ => True := by
  unfold finalize
  split_ifs
  · exact .report_bind (by simp) (.pure trivial)
  · refine .ask_bind ⟨rfl, hdelete⟩ fun answer => ?_
    match answer with
    | .error e => exact .pure trivial
    | .ok .pending => exact .pure trivial
    | .ok .complete =>
        refine .ask_bind ⟨hdelete, rfl, rfl⟩ fun answer => ?_
        cases answer with
        | error e => exact .pure trivial
        | ok stored => exact .report_bind (by simp [Footing.next]) (.pure trivial)

theorem applyState_treads (r : ImageRegistry) :
    Treads (.shown base) (applyState r) fun _ f => f = .shown base := by
  unfold applyState
  cases r.spec.managementState with
  | managed =>
      dsimp only
      cases r.spec.verify with
      | error fault => exact .pure rfl
      | ok _ => exact .ask_bind (by simp [Footing.Allows]) fun answer => .pure rfl
  | removed => exact .ask_bind (by simp [Footing.Allows]) fun answer => .pure rfl
  | unmanaged => exact .pure rfl
  | unknown word => exact .report_bind (by simp) (.pure rfl)

theorem reportFailure_bind {what name : String} {e : StoreError} {next : Unit → PassProgram α}
    (hf : f ≠ .unread) (hnext : Treads f (next ()) Q) :
    Treads f (reportFailure what name e >>= next) Q := by
  unfold reportFailure
  split_ifs
  · exact hnext
  · exact .report_bind hf hnext

/-- A registry that is to stay is written if it lacks the finalizer, and after that its status is
written at the version that the server gave it. -/
theorem persistObject_treads (hstay : base.metadata.isDeleteRequested = false)
    (hmetadata : r.metadata = base.metadata.addFinalizer ImageRegistry.finalizer)
    (hspec : r.spec = base.spec) :
    Treads (.shown base) (persistObject base r) fun result f =>
      f ≠ .unread ∧ ∀ r', result = .ok r' → f.UpdatesStatus r' := by
  unfold persistObject
  split_ifs with hsame
  · refine .pure ⟨by simp, fun r' heq => ?_⟩
    cases heq
    exact ⟨hstay, hsame⟩
  · refine .report_bind (by simp) (.ask_bind ⟨hstay, hmetadata, hspec⟩ fun answer => ?_)
    cases answer with
    | error e =>
        exact reportFailure_bind (by simp [Footing.next])
          (.pure ⟨by simp [Footing.next], fun r' heq => by cases heq⟩)
    | ok stored =>
        refine .pure ⟨by simp [Footing.next], fun r' heq => ?_⟩
        cases heq
        exact ⟨hstay, rfl, hspec⟩

theorem persistStatus_treads {previous : ImageRegistry} (hf : f ≠ .unread)
    (hstatus : f.UpdatesStatus r) : Treads f (persistStatus previous r) fun _ f => f ≠ .unread := by
  have hspent : ∀ answer, f.next (.write .updateStatus r) answer = .spent := by
    intro answer
    cases f <;> rfl
  unfold persistStatus
  split_ifs
  · exact .pure hf
  · refine .ask_bind hstatus fun answer => ?_
    rw [hspent]
    cases answer with
    | error e => exact reportFailure_bind (by simp) (.pure (by simp))
    | ok stored => exact .pure (by simp)

theorem persist_treads (hstay : base.metadata.isDeleteRequested = false)
    (hmetadata : r.metadata = base.metadata.addFinalizer ImageRegistry.finalizer)
    (hspec : r.spec = base.spec) :
    Treads (.shown base) (persist base r) fun _ f => f ≠ .unread := by
  unfold persist
  refine (persistObject_treads hstay hmetadata hspec).bind fun result f ⟨hf, hstatus⟩ => ?_
  cases result with
  | error e => exact .pure hf
  | ok r' => exact persistStatus_treads hf (hstatus r' rfl)

theorem conclude_treads (hf : f ≠ .unread) (applied : Applied) :
    Treads f (conclude applied) fun _ _ => True := by
  unfold conclude
  cases applied with
  | ok _ => exact .pure trivial
  | error e =>
      dsimp only
      split_ifs
      · exact .report_bind hf (.pure trivial)
      · exact .pure trivial

theorem manage_treads (hstay : base.metadata.isDeleteRequested = false) :
    Treads (.shown base) (manage base) fun _ _ => True := by
  unfold manage
  refine (applyState_treads _).bind fun applied f hf => ?_
  subst hf
  refine Treads.ask_bind (by simp [Footing.Allows]) fun answer => ?_
  cases answer with
  | error e => exact .pure trivial
  | ok deployment =>
      refine .ask_bind (by simp [Footing.Allows, Footing.next]) fun readings => ?_
      refine Obeys.bind (persist_treads hstay ?_ ?_) fun result f hf => ?_
      · rfl
      · rfl
      cases result with
      | error e => exact .pure trivial
      | ok _ => exact conclude_treads hf applied

/-- **A pass keeps to the protocol**, whatever is answered. -/
theorem pass_treads (bootstrapSpec : RegistrySpec) :
    Treads .unread (pass bootstrapSpec) fun _ _ => True := by
  unfold pass
  refine .ask_bind ⟨rfl, rfl⟩ fun answer => ?_
  match answer with
  | .error e => exact .pure trivial
  | .ok none => exact bootstrap_treads bootstrapSpec
  | .ok (some r) =>
      dsimp only
      split_ifs with hdelete
      · exact finalize_treads hdelete
      · exact manage_treads (by simpa using hdelete)

end Pass
end RegistryOperator
