import RegistryOperator.Proofs.Queue.Sharing
import RegistryOperator.Queue.Dispatch

/-! The tasks that wait for the items of a queue, step by step. A task registers before it looks,
and takes its registration back after it found something; an item becomes ready before it wakes a
task, and the queue closes before all tasks are woken. Between any two of these steps others take
theirs. A dispatch takes several of them at once, and whatever it does can be done step by step. -/

namespace RegistryOperator

namespace Dispatch

variable {R α ι : Type} (d : Dispatch R α ι)

theorem wakeOne_cases :
    (d.waiting = [] ∧ d.wakeOne = { d with stored := true }) ∨
    ∃ t rest, d.waiting = t :: rest ∧
      d.wakeOne = { d with waiting := rest, woken := d.woken ++ [t] } := by
  unfold wakeOne
  split
  case h_1 hnone => exact Or.inl ⟨hnone, rfl⟩
  case h_2 t rest hsome => exact Or.inr ⟨t, rest, hsome, rfl⟩

/-- A task that leaves takes back its registration or passes on its wake-up. -/
theorem leave_cases [DecidableEq ι] (t : ι) :
    (t ∉ d.woken ∧ d.leave t = { d with waiting := d.waiting.erase t }) ∨
    (t ∈ d.woken ∧ d.waiting = [] ∧
      d.leave t = { d with woken := d.woken.erase t, stored := true }) ∨
    ∃ t' rest, t ∈ d.woken ∧ d.waiting = t' :: rest ∧
      d.leave t = { d with waiting := rest, woken := d.woken.erase t ++ [t'] } := by
  unfold leave
  split_ifs with hwoken
  · rcases wakeOne_cases { d with woken := d.woken.erase t } with
      ⟨hnone, heq⟩ | ⟨t', rest, hsome, heq⟩
    · exact Or.inr (Or.inl ⟨hwoken, hnone, heq⟩)
    · exact Or.inr (Or.inr ⟨t', rest, hwoken, hsome, heq⟩)
  · exact Or.inl ⟨hwoken, rfl⟩

end Dispatch

namespace RateLimitedQueue

variable {L α : Type}

/-- At most one more item is ready, all others are where they were, and the queue is as open as
before. -/
def Grows (q q' : RateLimitedQueue L α) : Prop :=
  q'.backlog.shuttingDown = q.backlog.shuttingDown ∧
    ∃ new, q'.backlog.ready = q.backlog.ready ++ new ∧ new.length ≤ 1

theorem grows_of_ready {q q' : RateLimitedQueue L α} {x : α} {P : Prop} [Decidable P]
    (hdown : q'.backlog.shuttingDown = q.backlog.shuttingDown)
    (hready : q'.backlog.ready = if P then q.backlog.ready ++ [x] else q.backlog.ready) :
    q.Grows q' := by
  refine ⟨hdown, ?_⟩
  rw [hready]
  split_ifs
  · exact ⟨[x], rfl, Nat.le_refl 1⟩
  · exact ⟨[], (List.append_nil _).symm, Nat.zero_le 1⟩

variable [DecidableEq α]

theorem grows_done (q : RateLimitedQueue L α) (x : α) : q.Grows (q.done x) :=
  grows_of_ready (Backlog.done_shuttingDown ..) (Backlog.done_ready ..)

theorem grows_accept [RateLimiter L α] (q : RateLimitedQueue L α) {i : QueueInput α}
    (hi : i ≠ .shutDown) : q.Grows (q.accept i) := by
  rcases q.accept_cases i with ⟨x, _, heq⟩ | ⟨_, heq⟩ | ⟨hshut, _⟩
  · refine grows_of_ready ?_ (heq ▸ Backlog.add_ready ..)
    rw [heq, Backlog.add_shuttingDown]
  · exact ⟨by rw [heq], [], by rw [heq, List.append_nil], Nat.zero_le 1⟩
  · exact absurd hshut hi

end RateLimitedQueue

/-- Tasks that wait for the items of a queue, each of them somewhere between its steps. -/
structure WaitingRoom (R α ι : Type) where
  dispatch : Dispatch R α ι
  /-- The tasks that register next. -/
  turning : List ι := []
  /-- The tasks that registered and did not look at the queue since. -/
  looking : List ι := []
  /-- The tasks that have what they came for and did not take their registration back yet. -/
  parting : List ι := []
  /-- The items that became ready and did not wake a task yet. -/
  owed : Nat := 0
  /-- The shutdowns that did not wake the tasks yet. -/
  closing : Nat := 0
  /-- The items that became ready, in their order. -/
  readied : List α := []
  /-- Who was given what, in its order. -/
  given : List (ι × α) := []

namespace WaitingRoom

/-- The steps of all who have to do with the queue. -/
inductive Act (α ι : Type)
  | input (i : QueueInput α)
  | done (x : α)
  /-- An item that became ready wakes a task. -/
  | wake
  /-- A shutdown wakes all tasks. -/
  | wakeAll
  /-- A task begins to wait for an item. -/
  | arrive (t : ι)
  /-- A task that was woken goes on. -/
  | rise (t : ι)
  | register (t : ι)
  /-- A task looks at the queue. -/
  | check (t : ι)
  /-- A task takes its registration back and goes. -/
  | part (t : ι)
  /-- A task is given up while it waits. -/
  | leave (t : ι)

section

variable {R α ι : Type}

def start (limiter : Limiter R α) : WaitingRoom R α ι := { dispatch := { queue := { limiter } } }

/-- Nobody is on the way from one step to the next, and all who are to be woken are. -/
structure Quiet (w : WaitingRoom R α ι) : Prop where
  turning : w.turning = []
  looking : w.looking = []
  parting : w.parting = []
  owed : w.owed = 0
  closing : w.closing = 0

theorem Quiet.of_same {w : WaitingRoom R α ι} (h : w.Quiet) (dispatch : Dispatch R α ι)
    (readied : List α) (given : List (ι × α)) : Quiet { w with dispatch, readied, given } :=
  ⟨h.turning, h.looking, h.parting, h.owed, h.closing⟩

/-- The queue changed. If one more item is ready, a task is to be woken. -/
def post (w : WaitingRoom R α ι) (queue : WorkQueue R α) : WaitingRoom R α ι :=
  { w with
    dispatch.queue := queue
    owed := w.owed + (queue.length - w.dispatch.queue.length)
    readied := w.readied ++ queue.backlog.ready.drop w.dispatch.queue.length }

variable [DecidableEq ι]

/-- A task registers, or uses up the wake-up in store. -/
def register (w : WaitingRoom R α ι) (t : ι) : WaitingRoom R α ι :=
  let w := { w with turning := w.turning.erase t, looking := w.looking ++ [t] }
  if w.dispatch.stored then { w with dispatch.stored := false }
  else { w with dispatch.waiting := w.dispatch.waiting ++ [t] }

/-- A task looks at the queue. If it finds nothing it waits, unless it used up a wake-up: then it
registers again. -/
def check [DecidableEq α] (w : WaitingRoom R α ι) (t : ι) : WaitingRoom R α ι :=
  let (handout, queue) := w.dispatch.queue.take
  let w := { w with looking := w.looking.erase t, dispatch.queue := queue }
  match handout with
  | .item x => { w with parting := w.parting ++ [t], given := w.given ++ [(t, x)] }
  | .shutDown => { w with parting := w.parting ++ [t] }
  | .nothing =>
    if t ∈ w.dispatch.waiting ∨ t ∈ w.dispatch.woken then w
    else { w with turning := w.turning ++ [t] }

/-- What can be done. A task that is on its way from one step to the next is not given up. -/
def Allows (w : WaitingRoom R α ι) : Act α ι → Prop
  | .input _ => True
  | .done _ => True
  | .wake => 0 < w.owed
  | .wakeAll => 0 < w.closing
  | .arrive t => t ∉ w.turning ∧ t ∉ w.looking ∧ t ∉ w.parting ∧ t ∉ w.dispatch.waiting ∧
      t ∉ w.dispatch.woken
  | .rise t => t ∈ w.dispatch.woken ∧ t ∉ w.looking ∧ t ∉ w.parting
  | .register t => t ∈ w.turning
  | .check t => t ∈ w.looking
  | .part t => t ∈ w.parting
  | .leave t => t ∉ w.turning ∧ t ∉ w.looking ∧ t ∉ w.parting

instance (w : WaitingRoom R α ι) : (a : Act α ι) → Decidable (w.Allows a)
  | .input _ => inferInstanceAs (Decidable True)
  | .done _ => inferInstanceAs (Decidable True)
  | .wake => inferInstanceAs (Decidable (_ < _))
  | .wakeAll => inferInstanceAs (Decidable (_ < _))
  | .arrive _ => inferInstanceAs (Decidable (_ ∧ _))
  | .rise _ => inferInstanceAs (Decidable (_ ∧ _))
  | .register _ => inferInstanceAs (Decidable (_ ∈ _))
  | .check _ => inferInstanceAs (Decidable (_ ∈ _))
  | .part _ => inferInstanceAs (Decidable (_ ∈ _))
  | .leave _ => inferInstanceAs (Decidable (_ ∧ _))

end

variable {R α ι : Type} [Quantity R] [DecidableEq α] [DecidableEq ι]

def next (w : WaitingRoom R α ι) : Act α ι → WaitingRoom R α ι
  | .input i =>
    let posted := w.post (w.dispatch.queue.accept i)
    match i with
    | .shutDown => { posted with closing := w.closing + 1 }
    | _ => posted
  | .done x => w.post (w.dispatch.queue.done x)
  | .wake => { w with dispatch := w.dispatch.wakeOne, owed := w.owed - 1 }
  | .wakeAll => { w with dispatch := w.dispatch.wakeAll, closing := w.closing - 1 }
  | .arrive t => { w with turning := w.turning ++ [t] }
  | .rise t =>
    { w with dispatch.woken := w.dispatch.woken.erase t, turning := w.turning ++ [t] }
  | .register t => w.register t
  | .check t => w.check t
  | .part t => { w with parting := w.parting.erase t, dispatch := w.dispatch.leave t }
  | .leave t => { w with dispatch := w.dispatch.leave t }

/-- What cannot be done changes nothing. -/
def perform (w : WaitingRoom R α ι) (a : Act α ι) : WaitingRoom R α ι :=
  if w.Allows a then w.next a else w

def run (limiter : Limiter R α) (acts : List (Act α ι)) : WaitingRoom R α ι :=
  acts.foldl perform (start limiter)

/-- Some steps lead from one state to another. -/
def Steps (w w' : WaitingRoom R α ι) : Prop := ∃ acts : List (Act α ι), acts.foldl perform w = w'

variable {w w' w'' : WaitingRoom R α ι} {t : ι}

theorem Steps.of_allows {a : Act α ι} (ha : w.Allows a) : w.Steps (w.next a) := ⟨[a], if_pos ha⟩

theorem Steps.trans (h : w.Steps w') (h' : w'.Steps w'') : w.Steps w'' := by
  obtain ⟨acts, rfl⟩ := h
  obtain ⟨acts', rfl⟩ := h'
  exact ⟨acts ++ acts', List.foldl_append⟩

/-! ### What a dispatch does at once -/

/-- What a task is given. -/
def receipt (t : ι) : Backlog.Handout α → List (ι × α)
  | .item x => [(t, x)]
  | _ => []

/-- The queue changes, and a task is woken if one more item is ready. -/
def followed (w : WaitingRoom R α ι) (queue : WorkQueue R α) : WaitingRoom R α ι :=
  { w with
    dispatch := w.dispatch.follow queue
    readied := w.readied ++ queue.backlog.ready.drop w.dispatch.queue.length }

/-- A task looks for an item and waits if there is none. -/
def looked (w : WaitingRoom R α ι) (t : ι) : WaitingRoom R α ι :=
  { w with
    dispatch := (w.dispatch.look t).2
    given := w.given ++ receipt t (w.dispatch.look t).1 }

/-- A task that was woken looks again. -/
def risen (w : WaitingRoom R α ι) (t : ι) : WaitingRoom R α ι :=
  { w with dispatch.woken := w.dispatch.woken.erase t }.looked t

/-- A task looks for an item and does not wait. -/
def glanced (w : WaitingRoom R α ι) (t : ι) : WaitingRoom R α ι :=
  { w with
    dispatch := w.dispatch.glance.2
    given := w.given ++ receipt t w.dispatch.glance.1 }

/-- A task that is about to register, where all others wait or are woken. -/
structure Turns (w : WaitingRoom R α ι) (t : ι) : Prop where
  turning : w.turning = [t]
  looking : w.looking = []
  parting : w.parting = []
  idle : t ∉ w.dispatch.waiting ∧ t ∉ w.dispatch.woken

/-- Without a wake-up in store, the task registers and looks once. -/
theorem Turns.steps_of_unstored (h : w.Turns t) (hstored : w.dispatch.stored = false) :
    w.Steps { w.looked t with turning := [] } := by
  obtain ⟨⟨queue, waiting, woken, stored⟩, turning, looking, parting, _, _, _, _⟩ := w
  obtain ⟨rfl, rfl, rfl, hwaiting, hwoken⟩ := h
  cases hstored
  have herase : (waiting ++ [t]).erase t = waiting := by
    rw [List.erase_append_right _ hwaiting, List.erase_cons_head, List.append_nil]
  rcases queue.backlog.take_cases with ⟨x, rest, _, _, htake⟩ | ⟨_, _, htake⟩ | ⟨_, htake⟩
  · refine ⟨[.register t, .check t, .part t], ?_⟩
    simp [perform, Allows, next, register, check, looked, receipt, Dispatch.look, Dispatch.leave,
      RateLimitedQueue.take, htake, hwoken, herase]
  · refine ⟨[.register t, .check t], ?_⟩
    simp [perform, Allows, next, register, check, looked, receipt, Dispatch.look,
      RateLimitedQueue.take, htake]
  · refine ⟨[.register t, .check t, .part t], ?_⟩
    simp [perform, Allows, next, register, check, looked, receipt, Dispatch.look, Dispatch.leave,
      RateLimitedQueue.take, htake, hwoken, herase]

/-- A task that uses up the wake-up in store and finds nothing registers after that. -/
theorem Turns.steps (h : w.Turns t) : w.Steps { w.looked t with turning := [] } := by
  cases hstored : w.dispatch.stored with
  | false => exact h.steps_of_unstored hstored
  | true =>
      obtain ⟨⟨queue, waiting, woken, stored⟩, turning, looking, parting, owed, closing, readied,
        given⟩ := w
      obtain ⟨rfl, rfl, rfl, hwaiting, hwoken⟩ := h
      cases hstored
      rcases queue.backlog.take_cases with ⟨x, rest, _, _, htake⟩ | ⟨_, _, htake⟩ | ⟨_, htake⟩
      · refine ⟨[.register t, .check t, .part t], ?_⟩
        simp [perform, Allows, next, register, check, looked, receipt, Dispatch.look,
          Dispatch.leave, RateLimitedQueue.take, htake, hwoken, List.erase_of_not_mem hwaiting]
      · let again : WaitingRoom R α ι :=
          ⟨⟨queue, waiting, woken, false⟩, [t], [], [], owed, closing, readied, given⟩
        have hturns : again.Turns t := ⟨rfl, rfl, rfl, hwaiting, hwoken⟩
        refine .trans ⟨[.register t, .check t], ?_⟩ (hturns.steps_of_unstored rfl)
        simp [perform, Allows, next, register, check, RateLimitedQueue.take, htake, hwaiting,
          hwoken, again]
      · refine ⟨[.register t, .check t, .part t], ?_⟩
        simp [perform, Allows, next, register, check, looked, receipt, Dispatch.look,
          Dispatch.leave, RateLimitedQueue.take, htake, hwoken, List.erase_of_not_mem hwaiting]

theorem Quiet.look (h : w.Quiet) (hwaiting : t ∉ w.dispatch.waiting)
    (hwoken : t ∉ w.dispatch.woken) : w.Steps (w.looked t) := by
  have harrive : w.Allows (.arrive t) := by
    simp [Allows, h.turning, h.looking, h.parting, hwaiting, hwoken]
  have hturns : (w.next (.arrive t)).Turns t :=
    ⟨by simp [next, h.turning], h.looking, h.parting, hwaiting, hwoken⟩
  have hsteps := (Steps.of_allows harrive).trans hturns.steps
  rwa [← h.turning] at hsteps

theorem Quiet.rise (h : w.Quiet) (hwoken : t ∈ w.dispatch.woken)
    (hidle : t ∉ w.dispatch.waiting ∧ t ∉ w.dispatch.woken.erase t) : w.Steps (w.risen t) := by
  have hrise : w.Allows (.rise t) := ⟨hwoken, by simp [h.looking], by simp [h.parting]⟩
  have hturns : (w.next (.rise t)).Turns t :=
    ⟨by simp [next, h.turning], h.looking, h.parting, hidle⟩
  have hsteps := (Steps.of_allows hrise).trans hturns.steps
  simp only [next] at hsteps
  rwa [← h.turning] at hsteps

theorem Quiet.follow {queue : WorkQueue R α} {a : Act α ι} (h : w.Quiet)
    (hgrows : w.dispatch.queue.Grows queue) (ha : w.Allows a) (hnext : w.next a = w.post queue) :
    w.Steps (w.followed queue) := by
  obtain ⟨_, new, hready, hone⟩ := hgrows
  have hlength : queue.length = w.dispatch.queue.length + new.length := by
    rw [RateLimitedQueue.length, hready, List.length_append, RateLimitedQueue.length]
  have hpost : w.Steps (w.post queue) := hnext ▸ .of_allows ha
  rw [post, h.owed, hlength, Nat.add_sub_cancel_left, Nat.zero_add] at hpost
  unfold followed Dispatch.follow
  rcases Nat.le_one_iff_eq_zero_or_eq_one.mp hone with hnone | hone
  · rw [if_neg (by omega)]
    rwa [hnone, ← h.owed] at hpost
  · rw [hone] at hpost
    rw [if_pos (by omega)]
    have hsteps := hpost.trans (.of_allows (a := .wake) Nat.one_pos)
    rw [next] at hsteps
    dsimp only at hsteps
    rwa [Nat.sub_self, ← h.owed] at hsteps

theorem Quiet.input (h : w.Quiet) {i : QueueInput α} (hi : i ≠ .shutDown) :
    w.Steps (w.followed (w.dispatch.queue.accept i)) := by
  refine h.follow (a := .input i) (w.dispatch.queue.grows_accept hi) trivial ?_
  cases i with
  | shutDown => exact absurd rfl hi
  | _ => rfl

theorem Quiet.done (h : w.Quiet) (x : α) :
    w.Steps (w.followed (w.dispatch.queue.done x)) :=
  h.follow (a := .done x) (w.dispatch.queue.grows_done x) trivial rfl

theorem steps_shutDown (w : WaitingRoom R α ι) :
    w.Steps { w with dispatch := w.dispatch.shutDown } := by
  have hsteps : w.Steps ((w.next (.input .shutDown)).next .wakeAll) :=
    .trans (.of_allows (a := .input .shutDown) trivial)
      (.of_allows (a := .wakeAll) (Nat.succ_pos _))
  simpa [next, post, Dispatch.shutDown, Dispatch.wakeAll, RateLimitedQueue.accept,
    RateLimitedQueue.shutDown, RateLimitedQueue.length, Backlog.shutDown] using hsteps

theorem Quiet.leave (h : w.Quiet) (t : ι) :
    w.Steps { w with dispatch := w.dispatch.leave t } := by
  refine .of_allows (a := .leave t) ?_
  simp [Allows, h.turning, h.looking, h.parting]

theorem Quiet.glance (h : w.Quiet) (hwaiting : t ∉ w.dispatch.waiting)
    (hwoken : t ∉ w.dispatch.woken) : w.Steps (w.glanced t) := by
  have hlook := h.look hwaiting hwoken
  cases htake : w.dispatch.queue.take with
  | mk handout queue =>
      cases handout with
      | nothing =>
          have hleave : (w.looked t).Allows (.leave t) := by
            simp [Allows, looked, h.turning, h.looking, h.parting]
          have hsteps := hlook.trans (.of_allows hleave)
          simpa [next, looked, glanced, receipt, Dispatch.look, Dispatch.glance, Dispatch.leave,
            htake, hwoken, List.erase_append_right _ hwaiting] using hsteps
      | _ => simpa [looked, glanced, receipt, Dispatch.look, Dispatch.glance, htake] using hlook

/-- What can become of those who wait if each of them, and everyone else, does at once what they
do. -/
inductive AtOnce (limiter : Limiter R α) : WaitingRoom R α ι → Prop
  | start : AtOnce limiter (.start limiter)
  | input {w : WaitingRoom R α ι} (h : AtOnce limiter w) {i : QueueInput α} (hi : i ≠ .shutDown) :
    AtOnce limiter (w.followed (w.dispatch.queue.accept i))
  | done {w : WaitingRoom R α ι} (h : AtOnce limiter w) (x : α) :
    AtOnce limiter (w.followed (w.dispatch.queue.done x))
  | shutDown {w : WaitingRoom R α ι} (h : AtOnce limiter w) :
    AtOnce limiter { w with dispatch := w.dispatch.shutDown }
  | await {w : WaitingRoom R α ι} (h : AtOnce limiter w) {t : ι}
    (hwaiting : t ∉ w.dispatch.waiting) (hwoken : t ∉ w.dispatch.woken) :
    AtOnce limiter (w.looked t)
  | glance {w : WaitingRoom R α ι} (h : AtOnce limiter w) {t : ι}
    (hwaiting : t ∉ w.dispatch.waiting) (hwoken : t ∉ w.dispatch.woken) :
    AtOnce limiter (w.glanced t)
  | rise {w : WaitingRoom R α ι} (h : AtOnce limiter w) {t : ι} (hwoken : t ∈ w.dispatch.woken) :
    AtOnce limiter (w.risen t)
  | leave {w : WaitingRoom R α ι} (h : AtOnce limiter w) (t : ι) :
    AtOnce limiter { w with dispatch := w.dispatch.leave t }

end WaitingRoom
end RegistryOperator
