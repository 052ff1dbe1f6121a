import RegistryOperator.Cluster.Site
import RegistryOperator.Proofs.Operator.Acts
import RegistryOperator.Proofs.Reconcile.Permanence

/-! An operator at a site. Whatever a site does with its operator is some of the acts that can
happen to one, so that what holds after all acts holds of every operator at work. -/

namespace RegistryOperator

theorem RateLimitedQueue.earliest_mem {α : Type} {delayed : List (Delayed α)} {d : Delayed α}
    (h : earliest delayed = some d) : d ∈ delayed := by
  induction delayed generalizing d with
  | nil => cases h
  | cons e rest ih =>
      rw [earliest] at h
      cases hrest : earliest rest with
      | none =>
          rw [hrest] at h
          cases h
          exact List.mem_cons_self
      | some e' =>
          rw [hrest] at h
          dsimp only at h
          split_ifs at h
          · cases h
            exact List.mem_cons_self
          · cases h
            exact List.mem_cons_of_mem _ (ih hrest)

namespace Operator

variable {R : Type} [Quantity R] (o : Operator R)

/-- One operator is what another one becomes by some acts. -/
def Becomes (o' : Operator R) : Prop := ∃ acts, o' = o.after acts

theorem Becomes.refl : o.Becomes o := ⟨[], rfl⟩

theorem becomes_perform (a : OperatorAct) : o.Becomes (o.perform a) := ⟨[a], rfl⟩

variable {o}

theorem Becomes.trans {o' o'' : Operator R} (h : o.Becomes o') (h' : o'.Becomes o'') :
    o.Becomes o'' := by
  obtain ⟨acts, rfl⟩ := h
  obtain ⟨acts', rfl⟩ := h'
  exact ⟨acts ++ acts', (o.after_append acts acts').symm⟩

theorem becomes_fire : o.Becomes o.fire := by
  unfold fire RateLimitedQueue.fire
  cases hnext : RateLimitedQueue.earliest o.queue.delayed with
  | none => exact .refl o
  | some d =>
      have hrelease : o.perform (.release d) = { o with queue := o.queue.release d } := by
        rw [perform, RateLimitedQueue.accept, if_pos (RateLimitedQueue.earliest_mem hnext)]
      exact ⟨[.release d], hrelease.symm⟩

end Operator

namespace Site

variable {R : Type} {w w' : Site R} {s : Source}

theorem operator_of_signal {signal : Option WatchSignal} (h : w.signal s = some (signal, w')) :
    w'.operator = w.operator := by
  unfold Site.signal at h
  split at h
  · cases h
    rfl
  · unfold answered at h
    dsimp only at h
    split at h
    · cases h
      rfl
    · cases h
      rfl
    · obtain ⟨c, _, hc⟩ := Option.map_eq_some_iff.mp h
      cases hc
      rfl

theorem operator_of_talk {α : Type} (w : Site R) (p : Program api α) :
    (w.talk p).2.operator = w.operator := rfl

theorem operator_of_answer (w : Site R) (q : PassQuestion) :
    (w.answer q).2.operator = w.operator := by
  cases q with
  | apply | remove | finalize | write =>
      rw [answer]
      exact w.operator_of_talk _
  | _ => rfl

variable [Quantity R]

theorem hear_becomes (hopen : w.isOpen s = true) : w.operator.Becomes (w.hear s).operator := by
  have hrunning : (w.operator.tasks s).ended = false := by
    simp only [isOpen, Bool.and_eq_true, Bool.not_eq_true'] at hopen
    exact hopen.1
  unfold hear
  split
  case h_1 => exact .refl _
  case h_2 w' hsignal => exact operator_of_signal hsignal ▸ .refl _
  case h_3 signal w' hsignal =>
    have hreceive : w.operator.perform (.receive s w'.now signal) =
        w'.operator.receive s w'.now signal := by
      rw [Operator.perform, hrunning, operator_of_signal hsignal]
      rfl
    exact ⟨[.receive s w'.now signal], hreceive.symm⟩

/-- The answers of a site to its operator's pass. -/
def others (w : Site R) (q : PassQuestion) : q.Answer := (w.environment.answer q []).1

theorem answer_others (w : Site R) (q : PassQuestion) :
    w.operator.answer w.others q = w.others q := by
  cases q <;> rfl

theorem resume_becomes {q : PassQuestion}
    {next : q.Answer → PassProgram (Except PassError Unit)}
    (hbusy : w.operator.worker = .busy (.ask q next)) :
    w.operator.Becomes (w.resume q next).operator := by
  have hoperator := w.operator_of_answer q
  have hanswer : ∀ a, (w.answer q).1 = some a → w.others q = a := fun a => w.answer_environment
  unfold resume
  generalize w.answer q = answered at hoperator hanswer ⊢
  obtain ⟨a, w'⟩ := answered
  dsimp only at hoperator
  cases a with
  | none => exact hoperator ▸ .refl _
  | some a =>
      have hheard : w.operator.worker.goOn (w.operator.answer w.others) = .busy (next a) := by
        rw [← hanswer a rfl, ← w.answer_others q]
        exact congrArg (WorkerState.goOn (w.operator.answer w.others)) hbusy
      refine ⟨[.goOn w.others], ?_⟩
      change { w'.operator with worker := .busy (next a) } =
        { w.operator with worker := w.operator.worker.goOn (w.operator.answer w.others) }
      rw [hoperator, hheard]

theorem work_becomes (h : w.work = some w') : w.operator.Becomes w'.operator := by
  unfold work at h
  split at h
  case h_1 =>
    split_ifs at h
    cases h
    exact w.operator.becomes_perform .take
  case h_2 =>
    cases h
    exact w.operator.becomes_perform (.finish _)
  case h_3 q next hbusy =>
    split_ifs at h
    cases h
    exact resume_becomes hbusy
  case h_4 =>
    split_ifs at h
    cases h
    exact w.operator.becomes_perform .close
  case h_5 =>
    split_ifs at h
    cases h
    exact w.operator.becomes_perform .close
  case h_6 => cases h

theorem step_becomes (h : w.step = some w') : w.operator.Becomes w'.operator := by
  unfold step at h
  split at h
  case isTrue => cases h
  case isFalse =>
    split at h
    case h_1 s _ haudible =>
      have hmem : s ∈ w.audible := haudible ▸ List.mem_cons_self
      have hsignal := (Bool.and_eq_true_iff.mp (List.mem_filter.mp hmem).2).2
      cases h
      exact hear_becomes (Bool.and_eq_true_iff.mp hsignal).1
    case h_2 =>
      split_ifs at h
      · cases h
        exact w.operator.becomes_perform .noticeLists
      · cases h
        exact Operator.becomes_fire
      · exact work_becomes h

theorem runFor_becomes (limit fuel : Nat) (w : Site R) :
    w.operator.Becomes (w.runFor limit fuel).operator := by
  induction fuel generalizing w with
  | zero => exact .refl _
  | succ fuel ih =>
      rw [runFor]
      split
      case h_1 w' hstep => exact (step_becomes hstep).trans (ih w')
      case h_2 =>
        split
        · exact .refl _
        · split_ifs
          · exact ih _
          · exact .refl _

/-- **A site does nothing to its operator but such acts.** -/
theorem advance_becomes (w : Site R) (millis : Nat) :
    w.operator.Becomes (w.advance millis).operator :=
  runFor_becomes ..

end Site
end RegistryOperator
