import Mathlib.Logic.Function.Basic
import RegistryOperator.Proofs.Queue.Sharing
import RegistryOperator.Reconcile.Worker

/-! Any number of workers that run passes for one queue. To the queue such a worker is one of those
that share it: it holds the trigger from the moment it takes it until its pass is settled. So what a
crew does can be retold as a run of a shared queue, and since that never has an item in two hands, at
most one pass is under way. -/

namespace RegistryOperator

namespace WorkerState

def IsBusy : WorkerState → Prop
  | .busy _ => True
  | _ => False

/-- The pass of a worker goes on with the answer to what it asked. -/
def goOn (answer : (q : PassQuestion) → q.Answer) : WorkerState → WorkerState
  | .busy (.ask q next) => .busy (next (answer q))
  | w => w

theorem goOn_isBusy (answer : (q : PassQuestion) → q.Answer) (w : WorkerState) :
    (w.goOn answer).IsBusy ↔ w.IsBusy := by
  cases w with
  | busy rest => cases rest <;> rfl
  | _ => rfl

variable {L : Type}

/-- Only a worker to whom the trigger is given starts a pass. -/
theorem take_cases (spec : RegistrySpec) (w : WorkerState) (q : RateLimitedQueue L Trigger) :
    ((w.take spec q).2 = q ∧ ((w.take spec q).1.IsBusy → w.IsBusy)) ∨
    ∃ queue, q.take = (.item .changes, queue) ∧ (w.take spec q).2 = queue := by
  cases w with
  | idle =>
      rcases q.backlog.take_cases with ⟨x, rest, _, _, htake⟩ | ⟨_, _, htake⟩ | ⟨_, htake⟩
      · cases x
        have hqueue : q.take = (.item .changes, { q with backlog := q.backlog.handOver .changes rest }) := by
          rw [RateLimitedQueue.take, htake]
        exact Or.inr ⟨_, hqueue, by rw [WorkerState.take, hqueue]⟩
      · exact Or.inl (by simp [WorkerState.take, RateLimitedQueue.take, htake, IsBusy])
      · exact Or.inl (by simp [WorkerState.take, RateLimitedQueue.take, htake, IsBusy])
  | _ => exact Or.inl ⟨rfl, id⟩

end WorkerState

namespace Worker

variable {L : Type} [RateLimiter L Trigger]

/-- A pass is settled by an input and, unless the limiter has no delay, the return of the trigger. -/
theorem settle_cases (q : RateLimitedQueue L Trigger) (now : Duration)
    (result : Except PassError Unit) :
    ∃ i : QueueInput Trigger,
      ((settle q now result).1 = none ∧ (settle q now result).2 = q.accept i) ∨
      ((settle q now result).1.isSome ∧ (settle q now result).2 = (q.accept i).done .changes) := by
  cases result with
  | ok _ => exact ⟨.forget .changes, Or.inr ⟨rfl, rfl⟩⟩
  | error _ =>
      refine ⟨.addRateLimited now .changes, ?_⟩
      simp only [settle, RateLimitedQueue.accept]
      generalize q.addRateLimited now .changes = added
      obtain ⟨wait, queue⟩ := added
      cases wait with
      | none => exact Or.inl ⟨rfl, rfl⟩
      | some wait => exact Or.inr ⟨rfl, rfl⟩

end Worker

/-- Workers that run passes, and their queue. -/
structure Crew (L ι : Type) where
  queue : RateLimitedQueue L Trigger
  workers : ι → WorkerState := fun _ => .idle

inductive CrewAct (ι : Type)
  | input (i : QueueInput Trigger)
  | take (w : ι)
  /-- The surroundings answer what the pass of a worker asked. -/
  | goOn (w : ι) (answer : (q : PassQuestion) → q.Answer)
  | finish (w : ι) (now : Duration)

namespace Crew

variable {L ι : Type}

/-- A crew seen as workers that share its queue: the busy ones hold the trigger. -/
structure Mirrors (s : SharedQueue L Trigger ι) (c : Crew L ι) : Prop where
  inOrder : s.InOrder
  queue_eq : s.queue = c.queue
  held_of_busy : ∀ w, (c.workers w).IsBusy → (w, .changes) ∈ s.held

theorem Mirrors.start (limiter : L) :
    Mirrors { queue := { limiter } } ({ queue := { limiter } } : Crew L ι) :=
  ⟨.start limiter, rfl, fun _ hbusy => hbusy.elim⟩

variable {s : SharedQueue L Trigger ι} {c : Crew L ι}

theorem Mirrors.busy_unique (h : Mirrors s c) {w w' : ι} (hw : (c.workers w).IsBusy)
    (hw' : (c.workers w').IsBusy) : w = w' :=
  congrArg Prod.fst (List.inj_on_of_nodup_map h.inOrder.held_nodup (h.held_of_busy w hw)
    (h.held_of_busy w' hw') rfl)

variable [DecidableEq ι]

theorem Mirrors.update (h : Mirrors s c) (w : ι) {worker : WorkerState}
    (hbusy : worker.IsBusy → (c.workers w).IsBusy) :
    Mirrors s { c with workers := Function.update c.workers w worker } := by
  refine ⟨h.inOrder, h.queue_eq, fun w' hw' => ?_⟩
  by_cases heq : w' = w
  · subst heq
    dsimp only at hw'
    rw [Function.update_self] at hw'
    exact h.held_of_busy w' (hbusy hw')
  · dsimp only at hw'
    rw [Function.update_of_ne heq] at hw'
    exact h.held_of_busy w' hw'

variable [RateLimiter L Trigger]

/-- A crew after an act. Passes create a missing registry with a given spec. -/
def perform (spec : RegistrySpec) (c : Crew L ι) : CrewAct ι → Crew L ι
  | .input i => { c with queue := c.queue.accept i }
  | .take w =>
    let (worker, queue) := (c.workers w).take spec c.queue
    ⟨queue, Function.update c.workers w worker⟩
  | .goOn w answer =>
    { c with workers := Function.update c.workers w ((c.workers w).goOn answer) }
  | .finish w now =>
    let (worker, queue) := (c.workers w).finish now c.queue
    ⟨queue, Function.update c.workers w worker⟩

def run (spec : RegistrySpec) (limiter : L) (acts : List (CrewAct ι)) : Crew L ι :=
  acts.foldl (perform spec) { queue := { limiter } }

theorem Mirrors.input (h : Mirrors s c) (i : QueueInput Trigger) :
    Mirrors (s.perform (.input i)) { c with queue := c.queue.accept i } :=
  ⟨h.inOrder.turn (s.perform_turn _), by rw [SharedQueue.perform, h.queue_eq], h.held_of_busy⟩

/-- A worker that gets the trigger holds it, whatever it goes on to do. -/
theorem Mirrors.get (h : Mirrors s c) (w : ι) {queue : RateLimitedQueue L Trigger}
    (htake : c.queue.take = (.item .changes, queue)) (worker : WorkerState) :
    Mirrors (s.perform (.get w)) ⟨queue, Function.update c.workers w worker⟩ := by
  have hget : s.perform (.get w) = ⟨queue, (w, .changes) :: s.held⟩ := by
    simp only [SharedQueue.perform, h.queue_eq, htake]
  refine ⟨h.inOrder.turn (s.perform_turn _), by rw [hget], fun w' hw' => ?_⟩
  rw [hget]
  by_cases heq : w' = w
  · exact heq ▸ List.mem_cons_self
  · dsimp only at hw'
    rw [Function.update_of_ne heq] at hw'
    exact List.mem_cons_of_mem _ (h.held_of_busy w' hw')

/-- A busy worker that returns the trigger is busy no more. -/
theorem Mirrors.done (h : Mirrors s c) {w : ι} (hbusy : (c.workers w).IsBusy) :
    Mirrors (s.perform (.done w .changes))
      ⟨c.queue.done .changes, Function.update c.workers w .idle⟩ := by
  have hmem := h.held_of_busy w hbusy
  have hdone : s.perform (.done w .changes) =
      ⟨c.queue.done .changes, s.held.erase (w, .changes)⟩ := by
    simp only [SharedQueue.perform, if_pos hmem, h.queue_eq]
  refine ⟨h.inOrder.turn (s.perform_turn _), by rw [hdone], fun w' hw' => ?_⟩
  rw [hdone]
  dsimp only at hw'
  by_cases heq : w' = w
  · subst heq
    rw [Function.update_self] at hw'
    exact hw'.elim
  · rw [Function.update_of_ne heq] at hw'
    have hne : (w', Trigger.changes) ≠ (w, .changes) := fun h => heq (congrArg Prod.fst h)
    exact (List.mem_erase_of_ne hne).mpr (h.held_of_busy w' hw')

theorem Mirrors.finish (h : Mirrors s c) (spec : RegistrySpec) (w : ι) (now : Duration) :
    ∃ s', Mirrors s' (c.perform spec (.finish w now)) := by
  cases hw : c.workers w with
  | busy rest =>
      have hbusy : (c.workers w).IsBusy := by rw [hw]; trivial
      cases rest with
      | ask q next =>
          simp only [perform, hw, WorkerState.finish]
          exact ⟨s, h.update w fun _ => hbusy⟩
      | done result =>
          simp only [perform, hw, WorkerState.finish]
          obtain ⟨i, hsettle⟩ := Worker.settle_cases c.queue now result
          generalize Worker.settle c.queue now result = settled at hsettle
          obtain ⟨wait, queue⟩ := settled
          rcases hsettle with ⟨hwait, hqueue⟩ | ⟨hwait, hqueue⟩
          · cases hwait
            cases hqueue
            exact ⟨_, (h.input i).update w fun hidle => hidle.elim⟩
          · obtain ⟨_, hwait⟩ := Option.isSome_iff_exists.mp hwait
            cases hwait
            cases hqueue
            exact ⟨_, (h.input i).done hbusy⟩
  | _ =>
      simp only [perform, hw, WorkerState.finish]
      exact ⟨s, h.update w fun hbusy => hbusy.elim⟩

/-- Each act of a crew is some acts on a shared queue. -/
theorem Mirrors.perform (h : Mirrors s c) (spec : RegistrySpec) (a : CrewAct ι) :
    ∃ s', Mirrors s' (c.perform spec a) := by
  cases a with
  | input i => exact ⟨_, h.input i⟩
  | take w =>
      rcases (c.workers w).take_cases spec c.queue with ⟨hqueue, hbusy⟩ | ⟨queue, htake, hqueue⟩
      · simp only [Crew.perform, hqueue]
        exact ⟨s, h.update w hbusy⟩
      · simp only [Crew.perform, hqueue]
        exact ⟨_, h.get w htake _⟩
  | goOn w answer => exact ⟨s, h.update w ((c.workers w).goOn_isBusy answer).mp⟩
  | finish w now => exact h.finish spec w now

theorem run_mirrored (spec : RegistrySpec) (limiter : L) (acts : List (CrewAct ι)) :
    ∃ s, Mirrors s (run spec limiter acts) := by
  induction acts using List.reverseRecOn with
  | nil => exact ⟨_, .start limiter⟩
  | append_singleton acts a ih =>
      obtain ⟨s, hs⟩ := ih
      simp only [run, List.foldl_append, List.foldl_cons, List.foldl_nil]
      exact hs.perform spec a

/-- **Processing is exclusive.** After any acts on a shared queue, whatever its limiter: no item is
queued twice, none is queued and worked on, what is queued is dirty, and before the shutdown what is
dirty is either queued or worked on. So no item is in two hands, and of any number of workers of one
queue at most one runs a pass. -/
theorem processing_is_exclusive {L α ι : Type} [RateLimiter L α] [DecidableEq α] [DecidableEq ι]
    (limiter : L) (acts : List (QueueAct α ι)) {L' κ : Type} [RateLimiter L' Trigger] [DecidableEq κ]
    (limiter' : L') (spec : RegistrySpec) (deeds : List (CrewAct κ)) :
    let s := SharedQueue.run limiter acts
    let b := s.queue.backlog
    b.ready.Nodup ∧ (∀ x ∈ b.ready, x ∉ b.processing) ∧ (∀ x ∈ b.ready, x ∈ b.dirty) ∧
    (b.shuttingDown = false → ∀ x ∈ b.dirty, Xor (x ∈ b.ready) (x ∈ b.processing)) ∧
    (s.held.map Prod.snd).Nodup ∧
    ∀ w w', ((run spec limiter' deeds).workers w).IsBusy →
      ((run spec limiter' deeds).workers w').IsBusy → w = w' := by
  have hs := SharedQueue.run_inOrder limiter acts
  refine ⟨hs.backlog.ready_nodup, hs.backlog.idle_of_ready, hs.backlog.dirty_of_ready, ?_,
    hs.held_nodup, ?_⟩
  · intro hopen x hx
    have hready := hs.backlog.ready_iff hopen hx
    by_cases hp : x ∈ (SharedQueue.run limiter acts).queue.backlog.processing
    · exact Or.inr ⟨hp, fun hr => hready.mp hr hp⟩
    · exact Or.inl ⟨hready.mpr hp, hp⟩
  · intro w w' hw hw'
    obtain ⟨s, hmirrors⟩ := run_mirrored spec limiter' deeds
    exact hmirrors.busy_unique hw hw'

end Crew
end RegistryOperator
