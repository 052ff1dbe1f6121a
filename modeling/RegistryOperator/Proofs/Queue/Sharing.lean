import Mathlib.Data.List.Induction
import Mathlib.Data.List.Perm.Basic
import RegistryOperator.Proofs.Queue.Backlog
import RegistryOperator.Queue.WorkQueue

/-! A work queue that several workers share. Others fill it in any order, the items to come arrive in
any order, and a worker returns what it was handed, once. Each act is one turn of the backlog; what
all turns keep holds after every run. -/

namespace RegistryOperator

/-- What can be done to a queue without taking from it. -/
inductive QueueInput (α : Type)
  | add (x : α)
  | addAfter (now : Duration) (x : α) (wait : Duration)
  | addRateLimited (now : Duration) (x : α)
  | forget (x : α)
  /-- The wait of one of the items to come is over. -/
  | release (d : Delayed α)
  | shutDown

namespace RateLimitedQueue

variable {L α : Type} [DecidableEq α]

theorem add_add (q : RateLimitedQueue L α) (x : α) : (q.add x).add x = q.add x := by
  simp only [add, Backlog.add_add]

theorem addAfter_backlog (q : RateLimitedQueue L α) (now : Duration) (x : α) (wait : Duration) :
    (q.addAfter now x wait).backlog =
      if q.backlog.shuttingDown = false ∧ wait = .zero then q.backlog.add x else q.backlog := by
  unfold addAfter
  cases hdown : q.backlog.shuttingDown with
  | true => simp
  | false => by_cases hwait : wait = .zero <;> simp [hwait, add]

variable [RateLimiter L α]

/-- The queue after an input. An item that is not to come does not come. -/
def accept (q : RateLimitedQueue L α) : QueueInput α → RateLimitedQueue L α
  | .add x => q.add x
  | .addAfter now x wait => q.addAfter now x wait
  | .addRateLimited now x => (q.addRateLimited now x).2
  | .forget x => q.forget x
  | .release d => if d ∈ q.delayed then q.release d else q
  | .shutDown => q.shutDown

/-- The item that an input adds now. -/
def added? (q : RateLimitedQueue L α) : QueueInput α → Option α
  | .add x => some x
  | .addAfter _ x wait => if q.backlog.shuttingDown = false ∧ wait = .zero then some x else none
  | .addRateLimited now x =>
    if q.backlog.shuttingDown = false ∧ (q.charge now x).1 = some .zero then some x else none
  | .forget _ => none
  | .release d => if d ∈ q.delayed then some d.item else none
  | .shutDown => none

variable (q : RateLimitedQueue L α)

/-- Whatever the limiter says, the backlog changes only if the item need not wait. -/
theorem addRateLimited_backlog (now : Duration) (x : α) :
    (q.addRateLimited now x).2.backlog =
      if q.backlog.shuttingDown = false ∧ (q.charge now x).1 = some .zero then q.backlog.add x
      else q.backlog := by
  unfold addRateLimited
  have hbacklog : (q.charge now x).2.backlog = q.backlog := rfl
  generalize q.charge now x = charged at hbacklog ⊢
  obtain ⟨wait, charged⟩ := charged
  cases wait with
  | none => simpa using hbacklog
  | some wait =>
      simp only [Option.some.injEq] at hbacklog ⊢
      rw [addAfter_backlog, hbacklog]

/-- An input adds one item to the backlog, closes it, or leaves it as it is. -/
theorem accept_cases (i : QueueInput α) :
    (∃ x, q.added? i = some x ∧ (q.accept i).backlog = q.backlog.add x) ∨
    (q.added? i = none ∧ (q.accept i).backlog = q.backlog) ∨
    (i = .shutDown ∧ q.added? i = none ∧ (q.accept i).backlog = q.backlog.shutDown) := by
  cases i with
  | add x => exact Or.inl ⟨x, rfl, rfl⟩
  | addAfter now x wait =>
      simp only [added?, accept, addAfter_backlog]
      split_ifs
      · exact Or.inl ⟨x, rfl, rfl⟩
      · exact Or.inr (Or.inl ⟨rfl, rfl⟩)
  | addRateLimited now x =>
      simp only [added?, accept, addRateLimited_backlog]
      split_ifs
      · exact Or.inl ⟨x, rfl, rfl⟩
      · exact Or.inr (Or.inl ⟨rfl, rfl⟩)
  | forget x => exact Or.inr (Or.inl ⟨rfl, rfl⟩)
  | release d =>
      simp only [added?, accept]
      split_ifs
      · exact Or.inl ⟨d.item, rfl, rfl⟩
      · exact Or.inr (Or.inl ⟨rfl, rfl⟩)
  | shutDown => exact Or.inr (Or.inr ⟨rfl, rfl, rfl⟩)

end RateLimitedQueue

/-- What can be done to a queue that the workers `ι` share. -/
inductive QueueAct (α ι : Type)
  | input (i : QueueInput α)
  /-- A worker asks for an item. One that gets none asks again. -/
  | get (w : ι)
  /-- A worker returns an item that it was handed. -/
  | done (w : ι) (x : α)

inductive QueueEvent (α : Type)
  | added (x : α)
  | handedOut (x : α)
  | returned (x : α)
deriving DecidableEq, Repr

/-- A queue and what its workers have in their hands. -/
structure SharedQueue (L α ι : Type) where
  queue : RateLimitedQueue L α
  held : List (ι × α) := []

namespace SharedQueue

variable {L α ι : Type}

/-- The backlog is in order, and what is worked on is what the workers hold. -/
structure InOrder (s : SharedQueue L α ι) : Prop where
  backlog : s.queue.backlog.WellFormed
  held_perm : (s.held.map Prod.snd).Perm s.queue.backlog.processing

theorem InOrder.start (limiter : L) : InOrder ({ queue := { limiter } } : SharedQueue L α ι) :=
  ⟨.empty, .nil⟩

theorem InOrder.held_nodup {s : SharedQueue L α ι} (h : s.InOrder) : (s.held.map Prod.snd).Nodup :=
  h.held_perm.nodup_iff.mpr h.backlog.processing_nodup

theorem InOrder.mem_processing {s : SharedQueue L α ι} (h : s.InOrder) {w : ι} {x : α}
    (hmem : (w, x) ∈ s.held) : x ∈ s.queue.backlog.processing :=
  h.held_perm.mem_iff.mp (List.mem_map_of_mem (f := Prod.snd) hmem)

variable [DecidableEq α] [DecidableEq ι]

/-- One turn of the backlog and of the hands, and what it does to an item. -/
inductive Turn (s : SharedQueue L α ι) : Option (QueueEvent α) → SharedQueue L α ι → Prop
  | idle {s'} (hbacklog : s'.queue.backlog = s.queue.backlog) (hheld : s'.held = s.held) :
      Turn s none s'
  | closed {s'} (hbacklog : s'.queue.backlog = s.queue.backlog.shutDown)
      (hheld : s'.held = s.held) : Turn s none s'
  | added {s'} (x : α) (hbacklog : s'.queue.backlog = s.queue.backlog.add x)
      (hheld : s'.held = s.held) : Turn s (some (.added x)) s'
  | handedOut {s'} (w : ι) (x : α) (rest : List α)
      (hopen : s.queue.backlog.shuttingDown = false) (hready : s.queue.backlog.ready = x :: rest)
      (hbacklog : s'.queue.backlog = s.queue.backlog.handOver x rest)
      (hheld : s'.held = (w, x) :: s.held) : Turn s (some (.handedOut x)) s'
  | returned {s'} (w : ι) (x : α) (hmem : (w, x) ∈ s.held)
      (hbacklog : s'.queue.backlog = s.queue.backlog.done x)
      (hheld : s'.held = s.held.erase (w, x)) : Turn s (some (.returned x)) s'

theorem InOrder.turn {s s' : SharedQueue L α ι} {e : Option (QueueEvent α)} (h : s.InOrder)
    (hturn : Turn s e s') : s'.InOrder := by
  cases hturn with
  | idle hbacklog hheld =>
      constructor
      · rw [hbacklog]
        exact h.backlog
      · rw [hheld, hbacklog]
        exact h.held_perm
  | closed hbacklog hheld =>
      constructor
      · rw [hbacklog]
        exact h.backlog.shutDown
      · rw [hheld, hbacklog]
        exact h.held_perm
  | added x hbacklog hheld =>
      constructor
      · rw [hbacklog]
        exact h.backlog.add
      · rw [hheld, hbacklog, Backlog.add_processing]
        exact h.held_perm
  | handedOut w x rest hopen hready hbacklog hheld =>
      have hidle : x ∉ s.queue.backlog.processing :=
        h.backlog.idle_of_ready x (hready ▸ List.mem_cons_self)
      constructor
      · rw [hbacklog]
        exact h.backlog.handOver hready
      · rw [hheld, hbacklog, List.map_cons, Backlog.handOver, List.erase_of_not_mem hidle]
        exact h.held_perm.cons x
  | returned w x hmem hbacklog hheld =>
      constructor
      · rw [hbacklog]
        exact h.backlog.done (h.mem_processing hmem)
      · have hheld' := (List.perm_cons_erase hmem).map Prod.snd
        rw [List.map_cons] at hheld'
        have hperm := (hheld'.symm.trans h.held_perm).erase x
        rw [List.erase_cons_head] at hperm
        rw [hheld, hbacklog, Backlog.done_processing]
        exact hperm

theorem shuttingDown_turn {s s' : SharedQueue L α ι} {e : Option (QueueEvent α)}
    (hturn : Turn s e s') (hopen : s'.queue.backlog.shuttingDown = false) :
    s.queue.backlog.shuttingDown = false := by
  cases hturn with
  | idle hbacklog => rwa [hbacklog] at hopen
  | closed hbacklog =>
      rw [hbacklog] at hopen
      simp [Backlog.shutDown] at hopen
  | added x hbacklog => rwa [hbacklog, Backlog.add_shuttingDown] at hopen
  | handedOut w x rest hopen' => exact hopen'
  | returned w x hmem hbacklog => rwa [hbacklog, Backlog.done_shuttingDown] at hopen

theorem mem_dirty_turn {s s' : SharedQueue L α ι} {e : Option (QueueEvent α)} {x : α}
    (hturn : Turn s e s') (hopen : s'.queue.backlog.shuttingDown = false)
    (hkept : e ≠ some (.handedOut x)) (hmem : x ∈ s.queue.backlog.dirty) :
    x ∈ s'.queue.backlog.dirty := by
  have hopen' := shuttingDown_turn hturn hopen
  cases hturn with
  | idle hbacklog => rwa [hbacklog]
  | closed hbacklog => rwa [hbacklog]
  | added y hbacklog =>
      rw [hbacklog, Backlog.mem_dirty_add _ y hopen']
      exact Or.inr hmem
  | handedOut w y rest _ _ hbacklog =>
      have hne : x ≠ y := fun heq => hkept (by rw [heq])
      rw [hbacklog]
      exact (List.mem_erase_of_ne hne).mpr hmem
  | returned w y _ hbacklog => rwa [hbacklog, Backlog.done_dirty]

variable [RateLimiter L α]

/-- Nobody returns what they were not handed. -/
def perform (s : SharedQueue L α ι) : QueueAct α ι → SharedQueue L α ι
  | .input i => { s with queue := s.queue.accept i }
  | .get w =>
    match s.queue.take with
    | (.item x, queue) => ⟨queue, (w, x) :: s.held⟩
    | (_, queue) => ⟨queue, s.held⟩
  | .done w x => if (w, x) ∈ s.held then ⟨s.queue.done x, s.held.erase (w, x)⟩ else s

/-- A dirty item is queued, or it is so as soon as the worker that has it returns it. -/
theorem InOrder.due_of_dirty {s : SharedQueue L α ι} (h : s.InOrder) {x : α}
    (hopen : s.queue.backlog.shuttingDown = false) (hdirty : x ∈ s.queue.backlog.dirty) :
    x ∈ s.queue.backlog.ready ∨
      ∃ w, (w, x) ∈ s.held ∧ x ∈ (s.perform (.done w x)).queue.backlog.ready := by
  refine (h.backlog.ready_or_processing hopen x hdirty).imp_right fun hprocessing => ?_
  obtain ⟨⟨w, y⟩, hmem, hy⟩ := List.mem_map.mp (h.held_perm.mem_iff.mpr hprocessing)
  cases hy
  refine ⟨w, hmem, ?_⟩
  simp only [perform, if_pos hmem, RateLimitedQueue.done, Backlog.done_ready,
    if_pos (And.intro hdirty hopen)]
  exact List.mem_append_right _ (List.mem_singleton_self _)

def event? (s : SharedQueue L α ι) : QueueAct α ι → Option (QueueEvent α)
  | .input i => (s.queue.added? i).map .added
  | .get _ =>
    match s.queue.take.1 with
    | .item x => some (.handedOut x)
    | _ => none
  | .done w x => if (w, x) ∈ s.held then some (.returned x) else none

def run (limiter : L) (acts : List (QueueAct α ι)) : SharedQueue L α ι :=
  acts.foldl perform { queue := { limiter } }

theorem perform_turn (s : SharedQueue L α ι) (a : QueueAct α ι) :
    Turn s (s.event? a) (s.perform a) := by
  cases a with
  | input i =>
      simp only [event?, perform]
      rcases s.queue.accept_cases i with
        ⟨x, hadded, hbacklog⟩ | ⟨hadded, hbacklog⟩ | ⟨_, hadded, hbacklog⟩
      · rw [hadded]
        exact .added x hbacklog rfl
      · rw [hadded]
        exact .idle hbacklog rfl
      · rw [hadded]
        exact .closed hbacklog rfl
  | get w =>
      rcases s.queue.backlog.take_cases with
        ⟨x, rest, hopen, hready, htake⟩ | ⟨_, _, htake⟩ | ⟨_, htake⟩
      · simp only [event?, perform, RateLimitedQueue.take, htake]
        exact .handedOut w x rest hopen hready rfl rfl
      · simp only [event?, perform, RateLimitedQueue.take, htake]
        exact .idle rfl rfl
      · simp only [event?, perform, RateLimitedQueue.take, htake]
        exact .idle rfl rfl
  | done w x =>
      simp only [event?, perform]
      split_ifs with hmem
      · exact .returned w x hmem rfl rfl
      · exact .idle rfl rfl

theorem run_concat (limiter : L) (acts : List (QueueAct α ι)) (a : QueueAct α ι) :
    run limiter (acts ++ [a]) = (run limiter acts).perform a := by
  simp only [run, List.foldl_append, List.foldl_cons, List.foldl_nil]

theorem run_inOrder (limiter : L) (acts : List (QueueAct α ι)) : (run limiter acts).InOrder := by
  induction acts using List.reverseRecOn with
  | nil => exact InOrder.start limiter
  | append_singleton acts a ih =>
      rw [run_concat]
      exact ih.turn (perform_turn _ a)

end SharedQueue
end RegistryOperator
