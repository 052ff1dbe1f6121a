import Mathlib.Data.List.Induction
import RegistryOperator.Proofs.Queue.WaitingRoom

/-! No task waits beside an item that is ready. A task that found nothing is covered as long as
there are no more items than tasks that look again or are still to be woken: an item that becomes
ready owes a wake-up, a task that takes an item passes its own wake-up on, and so does one that is
given up. A wake-up is in store only while nobody is registered. So once all who were woken have
looked, either nothing is ready or nobody waits, and after the shutdown nobody does. -/

namespace RegistryOperator
namespace WaitingRoom

section

variable {R α ι : Type}

/-- Where a task can be at the same time, and when a wake-up is in store. -/
structure Orderly (w : WaitingRoom R α ι) : Prop where
  permit : w.dispatch.stored = true → w.dispatch.waiting = []
  tasks : (w.turning ++ (w.dispatch.waiting ++ w.dispatch.woken)).Nodup
  looking : (w.turning ++ w.looking).Nodup

/-- How many will look at the queue: those who were woken, those who are on their way, and those who
are still to be woken. -/
def coming (w : WaitingRoom R α ι) : Nat :=
  w.dispatch.woken.length + w.turning.length + w.looking.length + w.owed

/-- A task that found nothing and was not woken since. -/
def Parked (w : WaitingRoom R α ι) (t : ι) : Prop :=
  t ∈ w.dispatch.waiting ∧ t ∉ w.looking ∧ t ∉ w.parting

/-- Nobody is parked beside an item that nobody comes for, or before a queue that is closed. -/
structure Attended (w : WaitingRoom R α ι) : Prop where
  covered : w.dispatch.queue.backlog.shuttingDown = false → ∀ t, w.Parked t →
    w.dispatch.queue.length ≤ w.coming
  closed : w.dispatch.queue.backlog.shuttingDown = true → w.closing = 0 → ∀ t, ¬ w.Parked t

/-- The items that became ready are those that were given and those that are still ready. -/
def Handed (w : WaitingRoom R α ι) : Prop :=
  w.readied = w.given.map Prod.snd ++ w.dispatch.queue.backlog.ready

/-- What every step keeps. -/
structure Sound (w : WaitingRoom R α ι) : Prop where
  orderly : w.Orderly
  attended : w.Attended
  handed : w.Handed

theorem Sound.start (limiter : Limiter R α) : (start limiter : WaitingRoom R α ι).Sound where
  orderly := ⟨nofun, .nil, .nil⟩
  attended := ⟨fun _ _ ht => absurd ht.1 List.not_mem_nil, nofun⟩
  handed := rfl

/-- Nobody waits beside an item that is ready, nobody waits for a queue that is closed, and what
became ready was given to one task each or is still ready. -/
structure Served (w : WaitingRoom R α ι) : Prop where
  before : w.dispatch.queue.backlog.shuttingDown = false →
    ¬ (w.dispatch.queue.backlog.ready ≠ [] ∧ w.dispatch.waiting ≠ [])
  after : w.dispatch.queue.backlog.shuttingDown = true → w.dispatch.waiting = []
  handed : w.readied = w.given.map Prod.snd ++ w.dispatch.queue.backlog.ready

/-- When nobody is on the way and all who were woken have looked, all are served. -/
theorem Sound.served {w : WaitingRoom R α ι} (h : w.Sound) (hquiet : w.Quiet)
    (hwoken : w.dispatch.woken = []) : w.Served := by
  have hparked {t : ι} (ht : t ∈ w.dispatch.waiting) : w.Parked t := by
    refine ⟨ht, ?_, ?_⟩
    · rw [hquiet.looking]
      exact List.not_mem_nil
    · rw [hquiet.parting]
      exact List.not_mem_nil
  have hnone : w.coming = 0 := by
    simp [coming, hwoken, hquiet.turning, hquiet.looking, hquiet.owed]
  refine ⟨fun hopen ⟨hready, hwaiting⟩ => ?_, fun hshut => ?_, h.handed⟩
  · obtain ⟨t, ht⟩ := List.exists_mem_of_ne_nil _ hwaiting
    have hle := h.attended.covered hopen t (hparked ht)
    rw [hnone] at hle
    exact hready (List.length_eq_zero_iff.mp (Nat.le_zero.mp hle))
  · refine List.eq_nil_iff_forall_not_mem.mpr fun t ht => ?_
    exact h.attended.closed hshut hquiet.closing t (hparked ht)

end

variable {R α ι : Type} {w : WaitingRoom R α ι} {t : ι}

/-! ### The queue changes -/

theorem Attended.post {queue : WorkQueue R α} (h : w.Attended)
    (hgrows : w.dispatch.queue.Grows queue) : (w.post queue).Attended := by
  obtain ⟨hdown, new, hready, _⟩ := hgrows
  have hlength : queue.length = w.dispatch.queue.length + new.length := by
    rw [RateLimitedQueue.length, hready, List.length_append, RateLimitedQueue.length]
  constructor
  · intro hopen t ht
    have hle := h.covered (hdown ▸ hopen) t ht
    simp only [WaitingRoom.post, coming] at hle ⊢
    omega
  · exact fun hshut => h.closed (hdown ▸ hshut)

theorem Handed.post {queue : WorkQueue R α} (h : w.Handed)
    (hgrows : w.dispatch.queue.Grows queue) : (w.post queue).Handed := by
  obtain ⟨_, new, hready, _⟩ := hgrows
  unfold Handed at h ⊢
  simp only [WaitingRoom.post, hready, h, RateLimitedQueue.length, List.drop_left,
    List.append_assoc]

variable [DecidableEq ι]

/-! ### A task registers -/

theorem Orderly.register (h : w.Orderly) (ht : t ∈ w.turning) : (w.register t).Orderly := by
  obtain ⟨hpermit, htasks, hlooking⟩ := h
  unfold WaitingRoom.register
  dsimp only
  split_ifs with hstored
  · exact ⟨nofun, by grind, by grind⟩
  · exact ⟨fun heq => absurd heq hstored, by grind, by grind⟩

theorem Attended.register (h : w.Attended) (ht : t ∈ w.turning) : (w.register t).Attended := by
  obtain ⟨hcovered, hclosed⟩ := h
  have hlength := List.length_erase_of_mem ht
  have hpos := List.length_pos_of_mem ht
  unfold WaitingRoom.register
  dsimp only
  split_ifs <;> constructor <;> simp only [Parked, coming] at hcovered hclosed ⊢ <;> grind

theorem Handed.register (h : w.Handed) : (w.register t).Handed := by
  unfold WaitingRoom.register
  dsimp only
  split_ifs <;> exact h

/-! ### A task leaves -/

theorem Orderly.rise (h : w.Orderly) (hwoken : t ∈ w.dispatch.woken) :
    t ∉ w.dispatch.waiting ∧ t ∉ w.dispatch.woken.erase t := by
  have htasks := h.tasks
  grind

theorem Orderly.leave (h : w.Orderly) (t : ι) :
    ({ w with dispatch := w.dispatch.leave t } : WaitingRoom R α ι).Orderly := by
  obtain ⟨hpermit, htasks, hlooking⟩ := h
  rcases w.dispatch.leave_cases t with ⟨_, heq⟩ | ⟨_, hnone, heq⟩ | ⟨t', rest, _, hsome, heq⟩
  · rw [heq]
    exact ⟨by grind, by grind, hlooking⟩
  · rw [heq]
    exact ⟨fun _ => hnone, by grind, hlooking⟩
  · rw [heq]
    exact ⟨by grind, by grind, hlooking⟩

/-- Whoever leaves awake wakes someone else, unless nobody is registered. -/
theorem Attended.leave (h : w.Attended) (t : ι) :
    ({ w with dispatch := w.dispatch.leave t } : WaitingRoom R α ι).Attended := by
  obtain ⟨hcovered, hclosed⟩ := h
  rcases w.dispatch.leave_cases t with
    ⟨_, heq⟩ | ⟨_, hnone, heq⟩ | ⟨t', rest, hwoken, hsome, heq⟩
  · rw [heq]
    constructor <;> simp only [Parked, coming] at hcovered hclosed ⊢ <;> grind
  · rw [heq]
    constructor <;> simp only [Parked] at hclosed ⊢ <;> grind
  · have hlength := List.length_erase_of_mem hwoken
    have hpos := List.length_pos_of_mem hwoken
    rw [heq]
    constructor <;> simp only [Parked, coming] at hcovered hclosed ⊢ <;> grind

theorem Handed.leave (h : w.Handed) (t : ι) :
    ({ w with dispatch := w.dispatch.leave t } : WaitingRoom R α ι).Handed := by
  rcases w.dispatch.leave_cases t with ⟨_, heq⟩ | ⟨_, _, heq⟩ | ⟨t', rest, _, _, heq⟩
  · rw [heq]
    exact h
  · rw [heq]
    exact h
  · rw [heq]
    exact h

/-- A task that parts is not registered any more. -/
theorem Attended.part (hw : w.Orderly) (h : w.Attended) (t : ι) :
    ({ w with parting := w.parting.erase t, dispatch := w.dispatch.leave t } :
      WaitingRoom R α ι).Attended := by
  obtain ⟨hcovered, hclosed⟩ := h
  have htasks := hw.tasks
  rcases w.dispatch.leave_cases t with
    ⟨_, heq⟩ | ⟨_, hnone, heq⟩ | ⟨t', rest, hwoken, hsome, heq⟩
  · rw [heq]
    constructor <;> simp only [Parked, coming] at hcovered hclosed ⊢ <;> grind
  · rw [heq]
    constructor <;> simp only [Parked] at hclosed ⊢ <;> grind
  · have hlength := List.length_erase_of_mem hwoken
    have hpos := List.length_pos_of_mem hwoken
    rw [heq]
    constructor <;> simp only [Parked, coming] at hcovered hclosed ⊢ <;> grind

/-! ### A task looks at the queue -/

variable [DecidableEq α]

theorem Orderly.check (h : w.Orderly) (ht : t ∈ w.looking) : (w.check t).Orderly := by
  obtain ⟨hpermit, htasks, hlooking⟩ := h
  unfold WaitingRoom.check
  dsimp only
  split
  · exact ⟨hpermit, htasks, by grind⟩
  · exact ⟨hpermit, htasks, by grind⟩
  · split_ifs
    · exact ⟨hpermit, htasks, by grind⟩
    · exact ⟨hpermit, by grind, by grind⟩

/-- If a task finds an item there is one less, if it finds nothing there is none at all, and nobody
finds nothing after the shutdown. -/
theorem Attended.check (h : w.Attended) (ht : t ∈ w.looking) : (w.check t).Attended := by
  obtain ⟨hcovered, hclosed⟩ := h
  have hlength := List.length_erase_of_mem ht
  have hpos := List.length_pos_of_mem ht
  unfold WaitingRoom.check RateLimitedQueue.take
  rcases w.dispatch.queue.backlog.take_cases with
    ⟨x, rest, hopen, hready, htake⟩ | ⟨hopen, hready, htake⟩ | ⟨hshut, htake⟩
  · rw [htake]
    unfold Backlog.handOver
    constructor <;>
      simp only [Parked, coming, RateLimitedQueue.length] at hcovered hclosed ⊢ <;> grind
  · rw [htake]
    dsimp only
    split_ifs <;> constructor <;>
      simp only [Parked, coming, RateLimitedQueue.length] at hcovered hclosed ⊢ <;> grind
  · rw [htake]
    constructor <;> simp only [Parked, coming] at hcovered hclosed ⊢ <;> grind

theorem Handed.check (h : w.Handed) (t : ι) : (w.check t).Handed := by
  unfold WaitingRoom.check RateLimitedQueue.take
  rcases w.dispatch.queue.backlog.take_cases with
    ⟨x, rest, _, hready, htake⟩ | ⟨_, _, htake⟩ | ⟨_, htake⟩
  · rw [htake]
    simp only [Handed, hready] at h
    simp [Handed, h, Backlog.handOver]
  · rw [htake]
    dsimp only
    split_ifs <;> exact h
  · rw [htake]
    exact h

/-! ### Every step -/

variable [Quantity R] {a : Act α ι}

theorem Orderly.next (h : w.Orderly) (ha : w.Allows a) : (w.next a).Orderly := by
  obtain ⟨hpermit, htasks, hlooking⟩ := id h
  cases a with
  | input i => cases i <;> exact ⟨hpermit, htasks, hlooking⟩
  | done x => exact ⟨hpermit, htasks, hlooking⟩
  | wake =>
      rcases w.dispatch.wakeOne_cases with ⟨hnone, heq⟩ | ⟨t, rest, hsome, heq⟩
      · rw [WaitingRoom.next, heq]
        exact ⟨fun _ => hnone, htasks, hlooking⟩
      · rw [WaitingRoom.next, heq]
        exact ⟨by grind, by grind, hlooking⟩
  | wakeAll => exact ⟨fun _ => rfl, by grind [WaitingRoom.next, Dispatch.wakeAll], hlooking⟩
  | arrive t =>
      obtain ⟨hturning, hlook, _, hwaiting, hwoken⟩ := ha
      exact ⟨hpermit, by grind [WaitingRoom.next], by grind [WaitingRoom.next]⟩
  | rise t =>
      obtain ⟨hwoken, hlook, _⟩ := ha
      exact ⟨hpermit, by grind [WaitingRoom.next], by grind [WaitingRoom.next]⟩
  | register t => exact h.register ha
  | check t => exact h.check ha
  | part t =>
      have hleave := h.leave t
      exact ⟨hleave.permit, hleave.tasks, hleave.looking⟩
  | leave t => exact h.leave t

theorem Attended.next (hw : w.Orderly) (h : w.Attended) (ha : w.Allows a) :
    (w.next a).Attended := by
  obtain ⟨hcovered, hclosed⟩ := id h
  cases a with
  | input i =>
      cases i with
      | shutDown => exact ⟨nofun, fun _ hclosing => absurd hclosing (Nat.succ_ne_zero _)⟩
      | _ => exact h.post (w.dispatch.queue.grows_accept nofun)
  | done x => exact h.post (w.dispatch.queue.grows_done x)
  | wake =>
      rcases w.dispatch.wakeOne_cases with ⟨hnone, heq⟩ | ⟨t, rest, hsome, heq⟩
      · rw [WaitingRoom.next, heq]
        constructor <;> simp only [Parked] at hclosed ⊢ <;> grind
      · rw [WaitingRoom.next, heq]
        constructor <;> simp only [Parked, coming, Allows] at hcovered hclosed ha ⊢ <;> grind
  | wakeAll =>
      have hnone (t : ι) : ¬ (w.next .wakeAll).Parked t := fun ht => absurd ht.1 List.not_mem_nil
      exact ⟨fun _ t ht => absurd ht (hnone t), fun _ _ => hnone⟩
  | arrive t =>
      constructor <;> simp only [WaitingRoom.next, Parked, coming] at hcovered hclosed ⊢ <;> grind
  | rise t =>
      have hlength := List.length_erase_of_mem ha.1
      have hpos := List.length_pos_of_mem ha.1
      constructor <;> simp only [WaitingRoom.next, Parked, coming] at hcovered hclosed ⊢ <;> grind
  | register t => exact h.register ha
  | check t => exact h.check ha
  | part t => exact h.part hw t
  | leave t => exact h.leave t

theorem Handed.next (h : w.Handed) (a : Act α ι) : (w.next a).Handed := by
  cases a with
  | input i =>
      cases i with
      | shutDown =>
          simpa [Handed, WaitingRoom.next, WaitingRoom.post, RateLimitedQueue.accept,
            RateLimitedQueue.shutDown, RateLimitedQueue.length, Backlog.shutDown] using h
      | _ => exact h.post (w.dispatch.queue.grows_accept fun heq => by cases heq)
  | done x => exact h.post (w.dispatch.queue.grows_done x)
  | wake =>
      rcases w.dispatch.wakeOne_cases with ⟨_, heq⟩ | ⟨t, rest, _, heq⟩
      · rw [WaitingRoom.next, heq]
        exact h
      · rw [WaitingRoom.next, heq]
        exact h
  | register t => exact h.register
  | check t => exact h.check t
  | part t => exact h.leave t
  | leave t => exact h.leave t
  | _ => exact h

theorem Sound.perform (h : w.Sound) (a : Act α ι) : (w.perform a).Sound := by
  unfold WaitingRoom.perform
  split_ifs with ha
  · exact ⟨h.orderly.next ha, h.attended.next h.orderly ha, h.handed.next a⟩
  · exact h

theorem Sound.of_steps {w' : WaitingRoom R α ι} (h : w.Sound) (hsteps : w.Steps w') : w'.Sound := by
  obtain ⟨acts, rfl⟩ := hsteps
  induction acts using List.reverseRecOn with
  | nil => exact h
  | append_singleton acts a ih =>
      rw [List.foldl_append]
      exact ih.perform a

theorem run_sound (limiter : Limiter R α) (acts : List (Act α ι)) : (run limiter acts).Sound :=
  Sound.of_steps (.start limiter) ⟨acts, rfl⟩

/-- What is done at once is done in steps, and nobody is on the way after it. -/
theorem AtOnce.stepwise {limiter : Limiter R α} (h : AtOnce limiter w) :
    w.Quiet ∧ (WaitingRoom.start limiter).Steps w := by
  induction h with
  | start => exact ⟨⟨rfl, rfl, rfl, rfl, rfl⟩, [], rfl⟩
  | input _ hi ih => exact ⟨ih.1.of_same .., ih.2.trans (ih.1.input hi)⟩
  | done _ x ih => exact ⟨ih.1.of_same .., ih.2.trans (ih.1.done x)⟩
  | shutDown _ ih => exact ⟨ih.1.of_same .., ih.2.trans (steps_shutDown _)⟩
  | await _ hwaiting hwoken ih =>
      exact ⟨ih.1.of_same .., ih.2.trans (ih.1.look hwaiting hwoken)⟩
  | glance _ hwaiting hwoken ih =>
      exact ⟨ih.1.of_same .., ih.2.trans (ih.1.glance hwaiting hwoken)⟩
  | rise _ hwoken ih =>
      -- That a task is woken once, and does not wait then, holds of every run.
      have hidle := ((Sound.start limiter).of_steps ih.2).orderly.rise hwoken
      exact ⟨ih.1.of_same .., ih.2.trans (ih.1.rise hwoken hidle)⟩
  | leave _ t ih => exact ⟨ih.1.of_same .., ih.2.trans (ih.1.leave t)⟩

/-- **No wake-up is lost.** Whatever is done to a queue and to the tasks that wait for its items, in
whatever order: when all who were woken have looked, then before the shutdown no item is ready while
a task waits, and after it no task waits. The items that became ready are, in this order, those that
were given to one task each and those that are still ready. The same holds if all do what they do in
steps, between which others take theirs, as soon as nobody is on the way. -/
theorem no_wakeup_is_lost (limiter : Limiter R α) :
    (∀ w : WaitingRoom R α ι, AtOnce limiter w → w.dispatch.woken = [] → w.Served) ∧
    ∀ acts : List (Act α ι), (run limiter acts).Quiet →
      (run limiter acts).dispatch.woken = [] → (run limiter acts).Served :=
  ⟨fun _ h => ((Sound.start limiter).of_steps h.stepwise.2).served h.stepwise.1,
    fun acts => (run_sound limiter acts).served⟩

/-- Two tasks wait. One of them is woken by item 7, a third one is faster, and the first is given
up. -/
def givenUpActs : List (Act Nat Nat) :=
  [.arrive 0, .register 0, .check 0, .arrive 1, .register 1, .check 1, .input (.add 7), .arrive 2,
    .register 2, .wake, .check 2, .leave 0, .part 2, .rise 1, .register 1, .check 1]

theorem no_wakeup_is_lost_givenUp :
    (run (.longest [] : Limiter Float Nat) givenUpActs).Quiet ∧
    (run (.longest [] : Limiter Float Nat) givenUpActs).dispatch.woken = [] ∧
    (run (.longest [] : Limiter Float Nat) givenUpActs).dispatch.waiting = [1] ∧
    (run (.longest [] : Limiter Float Nat) givenUpActs).given = [(2, 7)] ∧
    (run (.longest [] : Limiter Float Nat) givenUpActs).dispatch.queue.backlog.ready = [] := by
  have hquiet : (run (.longest [] : Limiter Float Nat) givenUpActs).Quiet :=
    ⟨by decide, by decide, by decide, by decide, by decide⟩
  have hwoken : (run (.longest [] : Limiter Float Nat) givenUpActs).dispatch.woken = [] := by decide
  have hwaiting : (run (.longest [] : Limiter Float Nat) givenUpActs).dispatch.waiting = [1] := by
    decide
  have hserved :=
    (no_wakeup_is_lost (.longest [] : Limiter Float Nat)).2 givenUpActs hquiet hwoken
  refine ⟨hquiet, hwoken, hwaiting, by decide, ?_⟩
  by_contra hready
  exact hserved.before (by decide) ⟨hready, by rw [hwaiting]; exact List.cons_ne_nil 1 []⟩

end WaitingRoom
end RegistryOperator
