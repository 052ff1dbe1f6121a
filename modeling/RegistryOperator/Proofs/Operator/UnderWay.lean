import Mathlib.Data.List.Induction
import RegistryOperator.Proofs.Operator.Acts
import RegistryOperator.Proofs.Reconcile.Sight

/-! The pass that an operator has under way. It is told from the acts when it started, what it asked
and heard since, and what the caches were when they answered. Nothing takes a pass from the worker
before it is at its end, and while there is one the caches answer whatever they are asked. -/

namespace RegistryOperator

/-- The worker waits for a trigger or runs a pass. -/
def WorkerState.IsAtWork : WorkerState → Prop
  | .idle => True
  | .busy _ => True
  | _ => False

namespace Operator

variable {R : Type}

/-- How the phase, the worker, the sources and the queue hang together. -/
structure Sound (o : Operator R) : Prop where
  absent_of_waiting : o.phase = .waiting → o.worker = .absent
  present : o.phase = .working ∨ o.phase = .closing → o.worker ≠ .absent
  synced : o.worker ≠ .absent → ∀ s, o.isSynced s = true
  closed : o.phase = .closing → o.queue.backlog.shuttingDown = true
  rested : o.isEnded = true → ¬ o.worker.IsAtWork

variable {o o' : Operator R} {a : OperatorAct}

theorem Sound.of_absent (habsent : o.worker = .absent)
    (hphase : o.phase ≠ .working ∧ o.phase ≠ .closing) : o.Sound where
  absent_of_waiting _ := habsent
  present hactive := (hactive.elim hphase.1 hphase.2).elim
  synced hpresent := absurd habsent hpresent
  closed hclosing := absurd hclosing hphase.2
  rested _ := habsent ▸ id

/-- A worker that is there goes on, and does not come back to work. -/
theorem Sound.of_work (h : o.Sound) {worker : WorkerState} {queue : WorkQueue R Trigger}
    (hpresent : o.worker ≠ .absent) (hworker : worker ≠ .absent)
    (hwork : worker.IsAtWork → o.worker.IsAtWork)
    (hdown : o.queue.backlog.shuttingDown = true → queue.backlog.shuttingDown = true) :
    ({ o with worker, queue } : Operator R).Sound where
  absent_of_waiting hwaiting := absurd (h.absent_of_waiting hwaiting) hpresent
  present _ := hworker
  synced _ := h.synced hpresent
  closed hclosing := hdown (h.closed hclosing)
  rested hended hatWork := h.rested hended (hwork hatWork)

theorem Sound.step (h : o.Sound) (hstep : o.Step a o')
    (hsynced : ∀ s, o.isSynced s = true → o'.isSynced s = true) : o'.Sound := by
  cases hstep with
  | aside hdown =>
      exact ⟨h.absent_of_waiting, h.present, fun hpresent s => hsynced s (h.synced hpresent s),
        fun hclosing => hdown (h.closed hclosing), h.rested⟩
  | begin _ hall => exact ⟨nofun, fun _ => nofun, fun _ => hall, nofun, nofun⟩
  | giveUp hwaiting => exact .of_absent (h.absent_of_waiting hwaiting) ⟨nofun, nofun⟩
  | quit hwaiting => exact .of_absent (h.absent_of_waiting hwaiting) ⟨nofun, nofun⟩
  | closeDown hworking =>
      have hpresent := h.present (Or.inl hworking)
      exact ⟨nofun, fun _ => hpresent, fun _ => h.synced hpresent, fun _ => rfl, nofun⟩
  | start hidle hopen =>
      refine h.of_work (hidle ▸ nofun) nofun (fun _ => hidle ▸ trivial) fun hdown => ?_
      rw [hopen] at hdown
      cases hdown
  | leave hidle _ => exact h.of_work (hidle ▸ nofun) nofun (fun _ => hidle ▸ trivial) id
  | hear hbusy _ => exact h.of_work (hbusy ▸ nofun) nofun (fun _ => hbusy ▸ trivial) id
  | settle hbusy _ hworker hdown =>
      refine h.of_work (hbusy ▸ nofun) ?_ (fun _ => hbusy ▸ trivial) hdown
      rcases hworker with rfl | rfl
      · nofun
      · nofun
  | close hclosing hgone =>
      have hpresent := h.present (Or.inr hclosing)
      refine ⟨nofun, fun _ => hpresent, fun _ => h.synced hpresent, nofun, fun _ => ?_⟩
      rcases hgone with hgone | hgone
      · exact hgone ▸ id
      · exact hgone ▸ id

variable {rest : PassProgram (Except PassError Unit)}

/-- A pass that is under way was so before, starts, or hears an answer. -/
theorem Step.busy_cases (hstep : o.Step a o') (hbusy : o'.worker = .busy rest) :
    o.worker = .busy rest ∨
    (a = .take ∧ o.worker = .idle ∧ o.queue.backlog.shuttingDown = false ∧
      rest = Pass.pass o.bootstrapSpec) ∨
    ∃ q next others, a = .goOn others ∧ o.worker = .busy (.ask q next) ∧
      rest = next (o.answer others q) := by
  cases hstep with
  | begin => cases hbusy
  | start hidle hopen =>
      cases hbusy
      exact Or.inr (Or.inl ⟨rfl, hidle, hopen, rfl⟩)
  | leave => cases hbusy
  | hear hasked others =>
      cases hbusy
      exact Or.inr (Or.inr ⟨_, _, others, rfl, hasked, rfl⟩)
  | settle _ _ hworker _ =>
      rcases hworker with rfl | rfl
      · cases hbusy
      · cases hbusy
  | _ => exact Or.inl hbusy

/-- A pass that is under way goes on, hears an answer, or is at its end. -/
theorem Step.of_busy (hstep : o.Step a o') (h : o.Sound) (hbusy : o.worker = .busy rest) :
    o'.worker = .busy rest ∨
    (∃ q next others, rest = .ask q next ∧ o'.worker = .busy (next (o.answer others q))) ∨
    ∃ result now, rest = .done result ∧ a = .finish now := by
  cases hstep with
  | begin hwaiting =>
      rw [h.absent_of_waiting hwaiting] at hbusy
      cases hbusy
  | start hidle | leave hidle =>
      rw [hidle] at hbusy
      cases hbusy
  | hear hasked others =>
      rw [hasked] at hbusy
      cases hbusy
      exact Or.inr (Or.inl ⟨_, _, others, rfl, rfl⟩)
  | settle hdone now =>
      rw [hdone] at hbusy
      cases hbusy
      exact Or.inr (Or.inr ⟨_, now, rfl, rfl⟩)
  | _ => exact Or.inl hbusy

theorem Step.bootstrapSpec_eq (hstep : o.Step a o') : o'.bootstrapSpec = o.bootstrapSpec := by
  cases hstep <;> rfl

/-- No cache denies a pass an answer. -/
theorem Sound.not_denied (h : o.Sound) (hbusy : o.worker.IsBusy)
    (others : (q : PassQuestion) → q.Answer) (q : PassQuestion) :
    q.isDenied (o.answer others q) = false := by
  have hpresent : o.worker ≠ .absent := by
    intro habsent
    rw [habsent] at hbusy
    exact hbusy
  have hregistries : o.listers.registries.synced = true := h.synced hpresent .registries
  have hdeployments : o.listers.deployments.synced = true := h.synced hpresent .deployments
  cases q with
  | registry name =>
      have hanswer : o.answer others (.registry name) = .ok _ := if_pos hregistries
      rw [hanswer]
      rfl
  | deployment name =>
      have hanswer : o.answer others (.deployment name) = .ok _ := if_pos hdeployments
      rw [hanswer]
      rfl
  | _ => rfl

variable [Quantity R]

theorem Sound.perform (h : o.Sound) (a : OperatorAct) : (o.perform a).Sound :=
  h.step (Operator.step o a) fun s hs => (isSynced_perform o s a).mpr (Or.inl hs)

theorem Sound.after (h : o.Sound) (acts : List OperatorAct) : (o.after acts).Sound :=
  o.after_keeps (fun _ a h => h.perform a) h acts

theorem bootstrapSpec_after (acts : List OperatorAct) :
    (o.after acts).bootstrapSpec = o.bootstrapSpec :=
  o.after_keeps (fun o' a heq => (o'.step a).bootstrapSpec_eq.trans heq) rfl acts

/-- A pass is under way until it is finished at its end. -/
theorem Sound.pass_goes_on (h : o.Sound) (hbusy : o.worker = .busy rest)
    (later : List OperatorAct) :
    (∃ heard rest', rest.Leads heard rest' ∧ (o.after later).worker = .busy rest') ∨
    ∃ m now later' heard result, later = m ++ .finish now :: later' ∧
      rest.Leads heard (.done result) ∧ (o.after m).worker = .busy (.done result) := by
  induction later using List.reverseRecOn with
  | nil => exact Or.inl ⟨[], rest, .start, hbusy⟩
  | append_singleton later a ih =>
      rcases ih with ⟨heard, rest', hleads, hworker⟩ |
        ⟨m, now, later', heard, result, rfl, hleads, hworker⟩
      · rw [after_concat]
        rcases (Operator.step _ a).of_busy (h.after later) hworker with
          hsame | ⟨q, next, others, rfl, hheard⟩ | ⟨result, now, rfl, rfl⟩
        · exact Or.inl ⟨heard, rest', hleads, hsame⟩
        · exact Or.inl ⟨_, _, hleads.hear _, hheard⟩
        · exact Or.inr ⟨later, now, [], heard, result, rfl, hleads, hworker⟩
      · exact Or.inr ⟨m, now, later' ++ [a], heard, result, by simp, hleads, hworker⟩

/-- A pass that is under way: it started after some acts, and since then it asked and heard so much
and has this left. -/
structure UnderWay (o : Operator R) (before since : List OperatorAct)
    (heard : List (Exchange surroundings)) (rest : PassProgram (Except PassError Unit)) : Prop where
  idle : (o.after before).worker = .idle
  busy : ∀ m, m <+: since → (o.after (before ++ .take :: m)).worker.IsBusy
  leads : (Pass.pass o.bootstrapSpec).Leads heard rest
  answered : ∀ e ∈ heard, ∃ m others, m <+: since ∧
    e.2 = (o.after (before ++ .take :: m)).answer others e.1

variable {before since : List OperatorAct} {heard : List (Exchange surroundings)}

theorem UnderWay.wait (h : o.UnderWay before since heard rest)
    (hbusy : (o.after (before ++ .take :: (since ++ [a]))).worker.IsBusy) :
    o.UnderWay before (since ++ [a]) heard rest where
  idle := h.idle
  busy m hm := (List.prefix_concat_iff.mp hm).elim (fun heq => heq ▸ hbusy) (h.busy m)
  leads := h.leads
  answered e he := by
    obtain ⟨m, others, hm, heq⟩ := h.answered e he
    exact ⟨m, others, hm.trans (List.prefix_append since [a]), heq⟩

theorem UnderWay.hear {q : PassQuestion} {next : q.Answer → PassProgram (Except PassError Unit)}
    (h : o.UnderWay before since heard (.ask q next)) (others : (q : PassQuestion) → q.Answer)
    (hbusy : (o.after (before ++ .take :: (since ++ [a]))).worker.IsBusy) :
    let answer := (o.after (before ++ .take :: since)).answer others q
    o.UnderWay before (since ++ [a]) (⟨q, answer⟩ :: heard) (next answer) where
  idle := h.idle
  busy := (h.wait hbusy).busy
  leads := h.leads.hear _
  answered e he := by
    rcases List.mem_cons.mp he with rfl | he
    · exact ⟨since, others, List.prefix_append since [a], rfl⟩
    · exact (h.wait hbusy).answered e he

/-- Every pass that is under way has started at some moment. -/
theorem underWay_of_busy (hfirst : ¬ o.worker.IsBusy) {acts : List OperatorAct}
    (hbusy : (o.after acts).worker = .busy rest) :
    ∃ before since heard, acts = before ++ .take :: since ∧ o.UnderWay before since heard rest := by
  induction acts using List.reverseRecOn generalizing rest with
  | nil =>
      have hworker : o.worker = .busy rest := hbusy
      rw [hworker] at hfirst
      exact (hfirst trivial).elim
  | append_singleton acts a ih =>
      -- The last act started the pass, answered it, or let it be; before it the pass is the same.
      have hnow : (o.after (acts ++ [a])).worker.IsBusy := by rw [hbusy]; trivial
      rw [after_concat] at hbusy
      rcases (step _ a).busy_cases hbusy with
        hbefore | ⟨rfl, hidle, _, rfl⟩ | ⟨q, next, others, rfl, hasked, rfl⟩
      · obtain ⟨before, since, heard, rfl, h⟩ := ih hbefore
        rw [List.append_assoc, List.cons_append] at hnow
        exact ⟨before, since ++ [a], heard, by simp, h.wait hnow⟩
      · refine ⟨acts, [], [], rfl, hidle, fun m hm => ?_, ?_, fun e he => ?_⟩
        · rw [List.prefix_nil.mp hm]
          exact hnow
        · rw [bootstrapSpec_after]
          exact .start
        · cases he
      · obtain ⟨before, since, heard, rfl, h⟩ := ih hasked
        rw [List.append_assoc, List.cons_append] at hnow
        exact ⟨before, since ++ [.goOn others], _, by simp, h.hear others hnow⟩

theorem UnderWay.after_denial (h : o.UnderWay before since heard rest) (hsound : o.Sound) :
    Pass.denial.after false heard = false := by
  refine Pass.denial_after fun e he => ?_
  obtain ⟨m, others, hm, heq⟩ := h.answered e he
  rw [heq]
  exact (hsound.after _).not_denied (h.busy m hm) others e.1

end Operator
end RegistryOperator
