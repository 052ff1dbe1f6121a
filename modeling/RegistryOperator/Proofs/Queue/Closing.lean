import Mathlib.Data.List.Nodup
import RegistryOperator.Proofs.Queue.Sharing

/-! The queue after the shutdown. Whoever adds, asks or returns finds it closed, and so does an item
whose wait is over, whenever that wait began. The one thing that still happens is that items which
were given out before come back; none of them is queued again. -/

namespace RegistryOperator

/-- A call to a queue, by anyone and in any order: a caller need not have what it returns. -/
inductive QueueCall (α : Type)
  | input (i : QueueInput α)
  /-- A wait begins. Whoever asked for it may have found the queue open before it was shut down. -/
  | schedule (d : Delayed α)
  /-- Someone looks for an item, for the first time or after being woken. -/
  | get
  | done (x : α)

namespace QueueCall

variable {α : Type}

/-- The items that some calls return, in their order. -/
def returned : List (QueueCall α) → List α
  | [] => []
  | .done x :: calls => x :: returned calls
  | _ :: calls => returned calls

theorem mem_returned {x : α} {calls : List (QueueCall α)} :
    x ∈ returned calls ↔ .done x ∈ calls := by
  induction calls with
  | nil => simp [returned]
  | cons c calls ih =>
      cases c with
      | done y =>
          rw [returned, List.mem_cons, List.mem_cons, ih, QueueCall.done.injEq]
      | _ =>
          rw [returned, ih, List.mem_cons]
          · exact ⟨Or.inr, fun h => h.resolve_left nofun⟩
          · exact nofun

end QueueCall

namespace RateLimitedQueue

open QueueCall (returned)

variable {L α : Type} [DecidableEq α] {q : RateLimitedQueue L α}

/-! ### What a closed queue does -/

theorem take_of_closed (hdown : q.backlog.shuttingDown = true) : q.take = (.shutDown, q) := by
  have htake : q.backlog.take = (.shutDown, q.backlog) := by rw [Backlog.take, if_pos hdown]
  rw [take, htake]

/-- An item that comes back stays out of a closed queue, dirty or not. -/
theorem done_of_closed (hdown : q.backlog.shuttingDown = true) (x : α) :
    (q.done x).backlog = { q.backlog with processing := q.backlog.processing.erase x } := by
  have hstay : ¬(x ∈ q.backlog.dirty ∧ (!q.backlog.shuttingDown) = true) := by
    rw [hdown]
    exact fun h => Bool.false_ne_true h.2
  exact if_neg hstay

variable [RateLimiter L α]

/-- A closed queue takes nothing in, whoever asks and whatever the limiter says. -/
theorem accept_of_closed (hdown : q.backlog.shuttingDown = true) (i : QueueInput α) :
    (q.accept i).backlog = q.backlog := by
  have hadd (x : α) : q.backlog.add x = q.backlog := by
    have hadmits : q.backlog.admits x = false := by rw [Backlog.admits, hdown]; rfl
    rw [Backlog.add, hadmits]
    rfl
  have hshut : q.backlog.shutDown = q.backlog := by rw [Backlog.shutDown, ← hdown]
  rcases q.accept_cases i with ⟨x, _, heq⟩ | ⟨_, heq⟩ | ⟨_, _, heq⟩
  · exact heq.trans (hadd x)
  · exact heq
  · exact heq.trans hshut

/-! ### Calls in any order -/

/-- The queue after a call. -/
def call (q : RateLimitedQueue L α) : QueueCall α → RateLimitedQueue L α
  | .input i => q.accept i
  | .schedule d => { q with delayed := q.delayed ++ [d] }
  | .get => q.take.2
  | .done x => q.done x

/-- A queue after some calls. -/
def after (limiter : L) (calls : List (QueueCall α)) : RateLimitedQueue L α :=
  calls.foldl call { limiter }

theorem after_append (limiter : L) (before later : List (QueueCall α)) :
    after limiter (before ++ later) = later.foldl call (after limiter before) := List.foldl_append

theorem processing_nodup_call (h : q.backlog.processing.Nodup) (c : QueueCall α) :
    (q.call c).backlog.processing.Nodup := by
  cases c with
  | input i =>
      have hkept : (q.accept i).backlog.processing = q.backlog.processing := by
        rcases q.accept_cases i with ⟨x, _, heq⟩ | ⟨_, heq⟩ | ⟨_, _, heq⟩
        · rw [heq, Backlog.add_processing]
        · rw [heq]
        · rw [heq, Backlog.shutDown]
      show (q.accept i).backlog.processing.Nodup
      rwa [hkept]
  | schedule d => exact h
  | get =>
      show q.backlog.take.2.processing.Nodup
      rcases q.backlog.take_cases with ⟨x, rest, _, _, heq⟩ | ⟨_, _, heq⟩ | ⟨_, heq⟩
      · rw [heq]
        exact List.nodup_cons.mpr ⟨h.not_mem_erase, h.erase x⟩
      · rwa [heq]
      · rwa [heq]
  | done x =>
      show (q.backlog.done x).processing.Nodup
      rw [Backlog.done_processing]
      exact h.erase x

theorem processing_nodup_after (limiter : L) (calls : List (QueueCall α)) :
    (after limiter calls).backlog.processing.Nodup := by
  induction calls using List.reverseRecOn with
  | nil => exact List.nodup_nil
  | append_singleton calls c ih =>
      rw [after_append]
      exact processing_nodup_call ih c

/-- Whatever is called, a closed queue changes only by the items that come back. -/
theorem foldl_call_of_closed (hdown : q.backlog.shuttingDown = true) (calls : List (QueueCall α)) :
    (calls.foldl call q).backlog =
      { q.backlog with processing := q.backlog.processing.diff (returned calls) } := by
  induction calls generalizing q with
  | nil => rfl
  | cons c calls ih =>
      rw [List.foldl_cons]
      cases c with
      | input i =>
          have hcall : (q.call (.input i)).backlog = q.backlog := accept_of_closed hdown i
          rw [ih (by rwa [hcall]), hcall]
          rfl
      | schedule d => exact ih hdown
      | get =>
          have hcall : q.call .get = q := congrArg Prod.snd (take_of_closed hdown)
          rw [hcall]
          exact ih hdown
      | done x =>
          have hcall : (q.call (.done x)).backlog = _ := done_of_closed hdown x
          rw [ih (by rw [hcall]; exact hdown), hcall, returned, List.diff_cons]

/-- **The shutdown is final.** Once a queue is shut down, then whatever is called after that, in
whatever order and whenever waits come to their end: whoever asks for an item is told of the
shutdown; the items that are ready, how many they are and which items are dirty stay as they were;
the items that are worked on are those that were and did not come back since; and an item that comes
back is not queued, added again or not. -/
theorem shutDown_is_final (limiter : L) (before later : List (QueueCall α))
    (hdown : (after limiter before).backlog.shuttingDown = true) :
    (after limiter (before ++ later)).take = (.shutDown, after limiter (before ++ later)) ∧
    (after limiter (before ++ later)).backlog.ready = (after limiter before).backlog.ready ∧
    (after limiter (before ++ later)).length = (after limiter before).length ∧
    (after limiter (before ++ later)).backlog.dirty = (after limiter before).backlog.dirty ∧
    (after limiter (before ++ later)).backlog.processing.Sublist
      (after limiter before).backlog.processing ∧
    (∀ x, x ∈ (after limiter (before ++ later)).backlog.processing ↔
      x ∈ (after limiter before).backlog.processing ∧ .done x ∉ later) ∧
    ∀ x, ((after limiter (before ++ later)).done x).backlog.ready =
      (after limiter before).backlog.ready := by
  have hlater := foldl_call_of_closed hdown later
  rw [← after_append] at hlater
  have hclosed : (after limiter (before ++ later)).backlog.shuttingDown = true := by
    rw [hlater]
    exact hdown
  have hready : (after limiter (before ++ later)).backlog.ready =
      (after limiter before).backlog.ready := by rw [hlater]
  refine ⟨take_of_closed hclosed, hready, congrArg List.length hready, by rw [hlater], ?_, ?_, ?_⟩
  · rw [hlater]
    exact List.diff_sublist _ _
  · intro x
    rw [hlater, (processing_nodup_after limiter before).mem_sdiff_iff, QueueCall.mem_returned]
  · intro x
    rw [done_of_closed hclosed]
    exact hready

/-- Item 7 is worked on and added again, and item 9 is to come, when the queue is shut down with
item 8 in it. -/
def closingCalls : List (QueueCall Nat) :=
  [.input (.add 7), .input (.add 8), .get, .input (.add 7),
    .input (.addAfter .zero 9 (.ofSeconds 5)), .input .shutDown]

theorem shutDown_is_final_dirty :
    (after (.longest [] : Limiter Float Nat) closingCalls).backlog.shuttingDown = true ∧
    7 ∈ (after (.longest [] : Limiter Float Nat) closingCalls).backlog.processing ∧
    7 ∈ (after (.longest [] : Limiter Float Nat) closingCalls).backlog.dirty ∧
    (after (.longest [] : Limiter Float Nat) (closingCalls ++
      [.input (.release ⟨5000, 9⟩), .done 7, .get])).backlog.ready = [8] ∧
    7 ∉ (after (.longest [] : Limiter Float Nat) (closingCalls ++
      [.input (.release ⟨5000, 9⟩), .done 7, .get])).backlog.processing := by
  have hdown : (after (.longest [] : Limiter Float Nat) closingCalls).backlog.shuttingDown = true :=
    by decide
  obtain ⟨_, hready, _, _, _, hprocessing, _⟩ := shutDown_is_final
    (.longest [] : Limiter Float Nat) closingCalls
    [.input (.release ⟨5000, 9⟩), .done 7, .get] hdown
  refine ⟨hdown, by decide, by decide, hready, fun hmem => ?_⟩
  exact ((hprocessing 7).mp hmem).2 (by simp)

end RateLimitedQueue
end RegistryOperator
