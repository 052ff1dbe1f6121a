import RegistryOperator.Operator.Basic
import RegistryOperator.Proofs.Reconcile.Crew
import RegistryOperator.Proofs.Trigger.Posting

/-! Everything that can happen to an operator, in any order: to its tasks, its queue, its worker and
itself. What one act can do to the worker and to the operator is said once, and so is when a source
counts as listed; all else about runs is derived from the two. -/

namespace RegistryOperator

namespace RateLimitedQueue

variable {L α : Type} [RateLimiter L α] [DecidableEq α]

/-- A queue that was shut down stays so. -/
theorem accept_shuttingDown (q : RateLimitedQueue L α) (i : QueueInput α)
    (hdown : q.backlog.shuttingDown = true) : (q.accept i).backlog.shuttingDown = true := by
  rcases q.accept_cases i with ⟨x, _, heq⟩ | ⟨_, heq⟩ | ⟨_, _, heq⟩
  · rw [heq, Backlog.add_shuttingDown, hdown]
  · rw [heq, hdown]
  · rw [heq, Backlog.shutDown]

end RateLimitedQueue

theorem Worker.settle_shuttingDown {L : Type} [RateLimiter L Trigger]
    (q : RateLimitedQueue L Trigger) (now : Duration) (result : Except PassError Unit)
    (hdown : q.backlog.shuttingDown = true) :
    (settle q now result).2.backlog.shuttingDown = true := by
  obtain ⟨i, ⟨_, heq⟩ | ⟨_, heq⟩⟩ := settle_cases q now result
  · rw [heq, q.accept_shuttingDown i hdown]
  · rw [heq, RateLimitedQueue.done, Backlog.done_shuttingDown, q.accept_shuttingDown i hdown]

namespace WatchTask

variable {κ R : Type} [Resource κ] (p : WatchPlan κ) (t : WatchTask κ)
  (q : WorkQueue R Trigger) (now : Nat) (signal : WatchSignal)

/-- A signal is the list of all objects there are. -/
def Lists : Prop :=
  ∃ objects entries, (t.state.receive p.decode signal).1 = .event (.restarted objects) ∧
    Entry.all? objects = some entries

/-- An informer is synced from the first list of all objects on. -/
theorem receive_synced :
    (t.receive p q now signal).1.informer.synced = true ↔
      t.informer.synced = true ∨ t.Lists p signal := by
  unfold receive Lists
  generalize t.state.receive p.decode signal = received
  obtain ⟨news, state⟩ := received
  match news with
  | .none => simp
  | .lost => simp
  | .fault e => simp
  | .event (.applied x) =>
      cases hkey : (WatchEvent.applied x).keyed? with
      | none => simp [hkey]
      | some e =>
          obtain ⟨entry, _, rfl⟩ := Option.map_eq_some_iff.mp hkey
          simp [hkey, Informer.apply]
  | .event (.deleted x) =>
      cases hkey : (WatchEvent.deleted x).keyed? with
      | none => simp [hkey]
      | some e =>
          obtain ⟨entry, _, rfl⟩ := Option.map_eq_some_iff.mp hkey
          simp [hkey, Informer.apply]
  | .event (.restarted objects) =>
      cases hall : Entry.all? objects with
      | none => simp [WatchEvent.keyed?, hall]
      | some entries => simp [WatchEvent.keyed?, hall, Informer.apply]

theorem receive_shuttingDown :
    (t.receive p q now signal).2.1.backlog.shuttingDown = q.backlog.shuttingDown := by
  unfold receive
  generalize t.state.receive p.decode signal = received
  obtain ⟨news, state⟩ := received
  match news with
  | .none => rfl
  | .lost => rfl
  | .fault e => rfl
  | .event e =>
      dsimp only
      cases e.keyed? with
      | none => rfl
      | some e =>
          rcases t.informer.notify_cases p.scope.kind p.funnel q e with ⟨_, heq⟩ | ⟨_, heq⟩
          · dsimp only
            rw [heq, RateLimitedQueue.add, Backlog.add_shuttingDown]
          · dsimp only
            rw [heq]

end WatchTask

/-- What can happen to an operator. -/
inductive OperatorAct
  /-- A signal comes for the task of a source, at a millisecond. -/
  | receive (s : Source) (now : Nat) (signal : WatchSignal)
  /-- The task of a source tells its whole cache again. -/
  | resync (s : Source)
  /-- The task of a source ends. -/
  | stop (s : Source)
  /-- The wait of a trigger is over. -/
  | release (d : Delayed Trigger)
  | noticeLists
  | shutDown
  | take
  /-- What the pass asked is answered. -/
  | goOn (others : (q : PassQuestion) → q.Answer)
  | finish (now : Duration)
  | close

namespace Operator

variable {R : Type} (o : Operator R)

/-- The answer to a question of the pass. The caches answer for themselves. -/
def answer (others : (q : PassQuestion) → q.Answer) : (q : PassQuestion) → q.Answer
  | .registry name => o.listers.registry name
  | .deployment name => o.listers.deployment name
  | q => others q

/-- When the task of a source hears of all objects there are. -/
inductive Lists (s : Source) : OperatorAct → Prop
  | receive {now : Nat} {signal : WatchSignal} (hopen : o.isEnded = false)
    (hrunning : (o.tasks s).ended = false)
    (hlists : (o.tasks s).Lists (s.plan o.dependents.ns) signal) :
    Lists s (.receive s now signal)

theorem withTask_self (s : Source) (t : WatchTask s.Object) : o.withTask s t s = t :=
  dif_pos rfl

theorem withTask_of_ne {s s' : Source} (t : WatchTask s.Object) (hne : s ≠ s') :
    o.withTask s t s' = o.tasks s' :=
  dif_neg hne

/-- What an act can do to the worker and to the operator. -/
inductive Step : OperatorAct → Operator R → Prop
  | aside {a : OperatorAct} {queue : WorkQueue R Trigger}
    {tasks : (s : Source) → WatchTask s.Object}
    (hdown : o.queue.backlog.shuttingDown = true → queue.backlog.shuttingDown = true) :
    Step a { o with queue, tasks }
  | begin (hwaiting : o.phase = .waiting) (hsynced : ∀ s, o.isSynced s = true) :
    Step .noticeLists { o with phase := .working, worker := .idle }
  | giveUp (hwaiting : o.phase = .waiting) :
    Step .noticeLists
      { o with phase := .ended (.error .cacheSync), queue := o.queue.shutDown }
  | quit (hwaiting : o.phase = .waiting) :
    Step .shutDown { o with phase := .ended (.ok ()), queue := o.queue.shutDown }
  | closeDown (hworking : o.phase = .working) :
    Step .shutDown { o with phase := .closing, queue := o.queue.shutDown }
  | start {queue : WorkQueue R Trigger} (hidle : o.worker = .idle)
    (hopen : o.queue.backlog.shuttingDown = false) :
    Step .take { o with worker := .busy (Pass.pass o.bootstrapSpec), queue }
  | leave (hidle : o.worker = .idle) (hdown : o.queue.backlog.shuttingDown = true) :
    Step .take { o with worker := .finished }
  | hear {q : PassQuestion} {next : q.Answer → PassProgram (Except PassError Unit)}
    (hbusy : o.worker = .busy (.ask q next)) (others : (q : PassQuestion) → q.Answer) :
    Step (.goOn others) { o with worker := .busy (next (o.answer others q)) }
  | settle {result : Except PassError Unit} (hbusy : o.worker = .busy (.done result))
    (now : Duration) {worker : WorkerState} {queue : WorkQueue R Trigger}
    (hworker : worker = .idle ∨ worker = .crashed)
    (hdown : o.queue.backlog.shuttingDown = true → queue.backlog.shuttingDown = true) :
    Step (.finish now) { o with worker, queue }
  | close (hclosing : o.phase = .closing) (hgone : o.worker = .finished ∨ o.worker = .crashed) :
    Step .close { o with phase := .ended (.ok ()) }

theorem Step.same (a : OperatorAct) : o.Step a o :=
  @aside R o a o.queue o.tasks id

theorem Step.same_worker (a : OperatorAct) {worker : WorkerState} (hworker : o.worker = worker) :
    o.Step a { o with worker } :=
  hworker ▸ .same o a

theorem receive_step (s : Source) (now : Nat) (signal : WatchSignal) (a : OperatorAct) :
    o.Step a (o.receive s now signal) := by
  unfold receive
  split_ifs
  · exact .same o a
  · exact .aside fun hdown =>
      ((o.tasks s).receive_shuttingDown (s.plan o.dependents.ns) o.queue now signal).trans hdown

theorem noticeLists_step : o.Step .noticeLists o.noticeLists := by
  unfold noticeLists
  cases hphase : o.phase with
  | waiting =>
      dsimp only
      split_ifs with _ hsynced
      · exact .begin hphase fun s => List.all_eq_true.mp hsynced s s.mem_all
      · exact .giveUp hphase
      · exact .same o _
  | _ => exact .same o _

theorem shutDown_step : o.Step .shutDown o.shutDown := by
  unfold shutDown
  cases hphase : o.phase with
  | waiting => exact .quit hphase
  | working => exact .closeDown hphase
  | _ => exact .same o _

theorem take_step : o.Step .take o.take := by
  unfold take
  cases hworker : o.worker with
  | idle =>
      rw [WorkerState.take, RateLimitedQueue.take]
      rcases o.queue.backlog.take_cases with
        ⟨x, rest, hopen, _, htake⟩ | ⟨_, _, htake⟩ | ⟨hdown, htake⟩
      · rw [htake]
        exact .start hworker hopen
      · rw [htake]
        exact .same_worker o _ hworker
      · rw [htake]
        exact .leave hworker hdown
  | _ => exact .same_worker o _ hworker

theorem goOn_step (others : (q : PassQuestion) → q.Answer) :
    o.Step (.goOn others) { o with worker := o.worker.goOn (o.answer others) } := by
  cases hworker : o.worker with
  | busy rest =>
      cases rest with
      | ask q next => exact .hear hworker others
      | done result => exact .same_worker o _ hworker
  | _ => exact .same_worker o _ hworker

theorem close_step : o.Step .close o.close := by
  unfold close
  split
  case h_1 hphase hworker => exact .close hphase (Or.inl hworker)
  case h_2 hphase hworker => exact .close hphase (Or.inr hworker)
  case h_3 => exact .same o _

variable [Quantity R]

theorem finish_step (now : Duration) : o.Step (.finish now) (o.finish now) := by
  unfold finish
  cases hworker : o.worker with
  | busy rest =>
      cases rest with
      | ask q next => exact .same_worker o _ hworker
      | done result =>
          have hdown := Worker.settle_shuttingDown o.queue now result
          rw [WorkerState.finish]
          generalize Worker.settle o.queue now result = settled at hdown ⊢
          obtain ⟨wait, queue⟩ := settled
          cases wait with
          | none => exact .settle hworker now (Or.inr rfl) hdown
          | some _ => exact .settle hworker now (Or.inl rfl) hdown
  | _ => exact .same_worker o _ hworker

/-- The operator after an act. Nothing comes to a task that has ended. -/
def perform (o : Operator R) : OperatorAct → Operator R
  | .receive s now signal => if (o.tasks s).ended then o else o.receive s now signal
  | .resync s =>
    if o.isEnded || (o.tasks s).ended then o
    else { o with queue := (o.tasks s).informer.resync (s.plan o.dependents.ns).funnel o.queue }
  | .stop s =>
    if o.isEnded then o else { o with tasks := o.withTask s { o.tasks s with ended := true } }
  | .release d => { o with queue := o.queue.accept (.release d) }
  | .noticeLists => o.noticeLists
  | .shutDown => o.shutDown
  | .take => o.take
  | .goOn others => { o with worker := o.worker.goOn (o.answer others) }
  | .finish now => o.finish now
  | .close => o.close

def after (o : Operator R) (acts : List OperatorAct) : Operator R := acts.foldl perform o

theorem after_cons (a : OperatorAct) (acts : List OperatorAct) :
    o.after (a :: acts) = (o.perform a).after acts := rfl

theorem after_append (earlier later : List OperatorAct) :
    o.after (earlier ++ later) = (o.after earlier).after later :=
  List.foldl_append

theorem after_concat (acts : List OperatorAct) (a : OperatorAct) :
    o.after (acts ++ [a]) = (o.after acts).perform a :=
  o.after_append acts [a]

/-- What every act keeps is kept by all acts. -/
theorem after_keeps {P : Operator R → Prop} (hkept : ∀ o' a, P o' → P (perform o' a)) (h : P o)
    (acts : List OperatorAct) : P (o.after acts) :=
  List.foldlRecOn acts perform h fun o' ho' a _ => hkept o' a ho'

theorem step (a : OperatorAct) : o.Step a (o.perform a) := by
  cases a with
  | receive s now signal =>
      rw [perform]
      split_ifs
      · exact .same o _
      · exact o.receive_step s now signal _
  | resync s =>
      rw [perform, Informer.resync_eq]
      split_ifs
      · exact .same o _
      · exact .same o _
  | stop s =>
      rw [perform]
      split_ifs
      · exact .same o _
      · exact .aside id
  | release d => exact .aside (o.queue.accept_shuttingDown (.release d))
  | noticeLists => exact o.noticeLists_step
  | shutDown => exact o.shutDown_step
  | take => exact o.take_step
  | goOn others => exact o.goOn_step others
  | finish now => exact o.finish_step now
  | close => exact o.close_step

/-- An act leaves all tasks as they are, brings one of them a signal, or ends it. -/
theorem perform_tasks (a : OperatorAct) :
    ((o.perform a).tasks = o.tasks ∧ ∀ s, ¬ o.Lists s a) ∨
    (∃ s now signal, a = .receive s now signal ∧ o.isEnded = false ∧
      (o.tasks s).ended = false ∧ (o.perform a).tasks = o.withTask s
        ((o.tasks s).receive (s.plan o.dependents.ns) o.queue now signal).1) ∨
    ∃ s, a = .stop s ∧
      (o.perform a).tasks = o.withTask s { o.tasks s with ended := true } := by
  cases a with
  | receive s now signal =>
      rw [perform, receive]
      cases hrunning : (o.tasks s).ended with
      | true =>
          refine Or.inl ⟨rfl, fun s' hlists => ?_⟩
          cases hlists with
          | receive _ hrunning' _ => rw [hrunning] at hrunning'; cases hrunning'
      | false =>
          cases hopen : o.isEnded with
          | true =>
              refine Or.inl ⟨rfl, fun s' hlists => ?_⟩
              cases hlists with
              | receive hopen' _ _ => rw [hopen] at hopen'; cases hopen'
          | false => exact Or.inr (Or.inl ⟨s, now, signal, rfl, rfl, hrunning, rfl⟩)
  | stop s =>
      rw [perform]
      split_ifs
      · exact Or.inl ⟨rfl, nofun⟩
      · exact Or.inr (Or.inr ⟨s, rfl, rfl⟩)
  | resync s =>
      rw [perform, Informer.resync_eq]
      split_ifs <;> exact Or.inl ⟨rfl, nofun⟩
  | noticeLists =>
      refine Or.inl ⟨?_, nofun⟩
      rw [perform, noticeLists]
      repeat' split
      all_goals rfl
  | shutDown =>
      refine Or.inl ⟨?_, nofun⟩
      rw [perform, shutDown]
      split <;> rfl
  | close =>
      refine Or.inl ⟨?_, nofun⟩
      rw [perform, close]
      split <;> rfl
  | _ => exact Or.inl ⟨rfl, nofun⟩

/-- A source is listed from when its task hears of all objects on. -/
theorem isSynced_perform (s : Source) (a : OperatorAct) :
    (o.perform a).isSynced s = true ↔ o.isSynced s = true ∨ o.Lists s a := by
  rcases o.perform_tasks a with ⟨htasks, hnone⟩ |
    ⟨s', now, signal, rfl, hopen, hrunning, htasks⟩ | ⟨s', rfl, htasks⟩
  · simp only [isSynced, htasks, hnone s, or_false]
  · rw [isSynced, htasks]
    by_cases hs : s' = s
    · subst hs
      rw [withTask_self, WatchTask.receive_synced]
      refine or_congr_right ⟨fun hlists => .receive hopen hrunning hlists, fun hlists => ?_⟩
      cases hlists with
      | receive _ _ hlists => exact hlists
    · rw [withTask_of_ne _ _ hs]
      refine (or_iff_left fun hlists => ?_).symm
      cases hlists with
      | receive => exact hs rfl
  · rw [isSynced, htasks]
    have hnone : ¬ o.Lists s (.stop s') := nofun
    by_cases hs : s' = s
    · subst hs
      rw [withTask_self]
      exact (or_iff_left hnone).symm
    · rw [withTask_of_ne _ _ hs]
      exact (or_iff_left hnone).symm

theorem ended_perform {s : Source} (hended : (o.tasks s).ended = true) (a : OperatorAct) :
    ((o.perform a).tasks s).ended = true := by
  rcases o.perform_tasks a with ⟨htasks, _⟩ |
    ⟨s', now, signal, rfl, _, hrunning, htasks⟩ | ⟨s', rfl, htasks⟩
  · rw [htasks, hended]
  · have hs : s' ≠ s := by
      rintro rfl
      rw [hended] at hrunning
      cases hrunning
    rw [htasks, withTask_of_ne _ _ hs, hended]
  · rw [htasks]
    by_cases hs : s' = s
    · subst hs
      rw [withTask_self]
    · rw [withTask_of_ne _ _ hs, hended]

end Operator
end RegistryOperator
