import RegistryOperator.Proofs.Program.Conversation
import RegistryOperator.Proofs.Reconcile.Footing

/-! What a pass makes of what the caches say. It fails for want of an answer only if a cache denied
one, and it creates a registry only if the cache said that there is none. -/

namespace RegistryOperator

/-- Whether a pass failed because a cache denied an answer. -/
def PassError.isLookup : PassError → Bool
  | .getDeployment .. => true
  | .getRegistry .. => true
  | _ => false

/-- Whether the answer to a question is that a cache denies one. -/
def PassQuestion.isDenied : (q : PassQuestion) → q.Answer → Bool
  | .registry _, .error _ => true
  | .deployment _, .error _ => true
  | _, _ => false

namespace Footing

/-- A registry is known to be absent only from the cache. -/
theorem next_eq_absent {f : Footing} {q : PassQuestion} {answer : q.Answer}
    (h : f.next q answer = .absent) :
    f = .absent ∨ f = .unread ∧ ∃ name,
      (⟨q, answer⟩ : Exchange surroundings) = ⟨.registry name, .ok none⟩ := by
  unfold next at h
  split at h
  case h_2 name => exact Or.inr ⟨rfl, name, rfl⟩
  case h_7 => exact Or.inl h
  all_goals cases h

theorem mem_of_absent {heard : List (Exchange surroundings)}
    (hkept : protocol.Kept .unread heard) (habsent : protocol.after .unread heard = .absent) :
    (⟨.registry ImageRegistry.clusterName, .ok none⟩ : Exchange surroundings) ∈ heard := by
  induction heard with
  | nil => cases habsent
  | cons e heard ih =>
      obtain ⟨q, answer⟩ := e
      rcases next_eq_absent habsent with hbefore | ⟨_, name, heq⟩
      · exact List.mem_cons_of_mem _ (ih hkept.2 hbefore)
      · cases heq
        have hname : name = ImageRegistry.clusterName := hkept.1.2
        rw [hname]
        exact List.mem_cons_self

end Footing

namespace Pass

open Program (Obeys)

/-- Everything may be asked, and it is noted whether a cache denied an answer. -/
def denial : Protocol surroundings Bool :=
  ⟨fun _ _ => True, fun denied q answer => denied || q.isDenied answer⟩

theorem denial_after {heard : List (Exchange surroundings)}
    (h : ∀ e ∈ heard, PassQuestion.isDenied e.1 e.2 = false) :
    denial.after false heard = false := by
  induction heard with
  | nil => rfl
  | cons e heard ih =>
      have hbefore := ih fun e' he' => h e' (List.mem_cons_of_mem e he')
      have hlast : PassQuestion.isDenied e.1 e.2 = false := h e List.mem_cons_self
      change (denial.after false heard || PassQuestion.isDenied e.1 e.2) = false
      rw [hbefore, hlast]
      rfl

/-- Failing for want of an answer has its cause. -/
def Excused {α : Type} (result : Except PassError α) (denied : Bool) : Prop :=
  ∀ e, result = .error e → e.isLookup = true → denied = true

abbrev Looks {α : Type} (denied : Bool) (p : PassProgram α) (Q : α → Bool → Prop) : Prop :=
  Obeys denial Q denied p

variable {α : Type} {denied : Bool} {Q : α → Bool → Prop}

theorem Excused.ok (a : α) : Excused (.ok a) denied := nofun

theorem Excused.error {e : PassError} (he : e.isLookup = false) :
    Excused (.error e : Except PassError α) denied := by
  intro e' heq hlookup
  cases heq
  rw [he] at hlookup
  cases hlookup

theorem Looks.ask_bind {q : PassQuestion} {next : q.Answer → PassProgram α}
    (hnext : ∀ answer, Looks (denied || q.isDenied answer) (next answer) Q) :
    Looks denied (ask q >>= next) Q :=
  Obeys.question_bind trivial hnext

theorem Looks.report_bind {level : LogLevel} {message : String} {next : Unit → PassProgram α}
    (hnext : ∀ denied, Looks denied (next ()) Q) :
    Looks denied (report level message >>= next) Q :=
  .ask_bind fun _ => hnext _

theorem Looks.reportFailure_bind {what name : String} {e : StoreError}
    {next : Unit → PassProgram α} (hnext : ∀ denied, Looks denied (next ()) Q) :
    Looks denied (reportFailure what name e >>= next) Q := by
  unfold reportFailure
  split_ifs
  · exact hnext _
  · exact .report_bind hnext

theorem bootstrap_looks (spec : RegistrySpec) : Looks denied (bootstrap spec) Excused := by
  unfold bootstrap
  refine .report_bind fun _ => .ask_bind fun answer => ?_
  cases answer with
  | ok _ => exact .pure (.ok ())
  | error e =>
      dsimp only
      split_ifs
      · exact .report_bind fun _ => .pure (.ok ())
      · exact .pure (.error rfl)

theorem finalize_looks (r : ImageRegistry) : Looks denied (finalize r) Excused := by
  unfold finalize
  split_ifs
  · exact .report_bind fun _ => .pure (.ok ())
  · refine .ask_bind fun answer => ?_
    match answer with
    | .error e => exact .pure (.error rfl)
    | .ok .pending => exact .pure (.error rfl)
    | .ok .complete =>
        refine .ask_bind fun answer => ?_
        cases answer with
        | error e => exact .pure (.error rfl)
        | ok _ => exact .report_bind fun _ => .pure (.ok ())

theorem applyState_looks (r : ImageRegistry) :
    Looks denied (applyState r) fun _ _ => True := by
  unfold applyState
  cases r.spec.managementState with
  | managed =>
      dsimp only
      cases r.spec.verify with
      | error fault => exact .pure trivial
      | ok _ => exact .ask_bind fun answer => .pure trivial
  | removed => exact .ask_bind fun answer => .pure trivial
  | unmanaged => exact .pure trivial
  | unknown word => exact .report_bind fun _ => .pure trivial

theorem persistObject_looks (previous r : ImageRegistry) :
    Looks denied (persistObject previous r) Excused := by
  unfold persistObject
  split_ifs
  · exact .pure (.ok r)
  · refine .report_bind fun _ => .ask_bind fun answer => ?_
    cases answer with
    | error e => exact .reportFailure_bind fun _ => .pure (.error rfl)
    | ok _ => exact .pure (.ok _)

theorem persistStatus_looks (previous r : ImageRegistry) :
    Looks denied (persistStatus previous r) Excused := by
  unfold persistStatus
  split_ifs
  · exact .pure (.ok ())
  · refine .ask_bind fun answer => ?_
    cases answer with
    | error e => exact .reportFailure_bind fun _ => .pure (.error rfl)
    | ok _ => exact .pure (.ok ())

theorem persist_looks (previous r : ImageRegistry) :
    Looks denied (persist previous r) Excused := by
  unfold persist
  refine (persistObject_looks previous r).bind fun result denied hresult => ?_
  cases result with
  | error e => exact .pure fun e' heq => hresult e' (congrArg Except.error (Except.error.inj heq))
  | ok r' => exact persistStatus_looks previous r'

theorem conclude_looks (applied : Applied) : Looks denied (conclude applied) Excused := by
  unfold conclude
  cases applied with
  | ok _ => exact .pure (.ok ())
  | error e =>
      dsimp only
      split_ifs
      · exact .report_bind fun _ => .pure (.ok ())
      · exact .pure (.error rfl)

theorem manage_looks (r : ImageRegistry) : Looks denied (manage r) Excused := by
  unfold manage
  refine (applyState_looks _).bind fun applied denied _ => ?_
  refine Looks.ask_bind fun answer => ?_
  cases answer with
  | error e => exact .pure fun _ _ _ => Bool.or_true denied
  | ok deployment =>
      refine .ask_bind fun readings => ?_
      refine (persist_looks r _).bind fun result denied hresult => ?_
      cases result with
      | error e => exact .pure hresult
      | ok _ => exact conclude_looks applied

/-- **A pass that fails for want of an answer was denied one.** -/
theorem pass_looks (bootstrapSpec : RegistrySpec) :
    Looks false (pass bootstrapSpec) Excused := by
  unfold pass
  refine .ask_bind fun answer => ?_
  match answer with
  | .error e => exact .pure fun _ _ _ => rfl
  | .ok none => exact bootstrap_looks bootstrapSpec
  | .ok (some r) =>
      dsimp only
      split_ifs
      · exact finalize_looks r
      · exact manage_looks r

end Pass
end RegistryOperator
