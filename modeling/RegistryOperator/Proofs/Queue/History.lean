import Mathlib.Data.List.Count
import RegistryOperator.Proofs.Queue.Sharing

/-! What a shared queue does, told by what happened to its items. A history starts with the latest
event. The main statement says what of a backlog follows from its history before the shutdown: which
items are dirty, which are worked on, and that items are given out in the order in which they became
ready. Each hand-out uses up the additions before it, so none is lost and none counts twice. -/

namespace RegistryOperator

/-- `e` happened, and `undo` did not happen since. -/
def Since {β : Type} (e undo : β) (h : List β) : Prop :=
  ∃ later earlier, h = later ++ e :: earlier ∧ undo ∉ later

section

variable {β : Type} {e undo : β}

theorem not_since_nil : ¬ Since e undo [] := by
  rintro ⟨later, earlier, heq, _⟩
  simp at heq

theorem since_cons {a : β} {h : List β} :
    Since e undo (a :: h) ↔ a = e ∨ a ≠ undo ∧ Since e undo h := by
  constructor
  · rintro ⟨later, earlier, heq, hnot⟩
    cases later with
    | nil =>
        rw [List.nil_append, List.cons.injEq] at heq
        exact Or.inl heq.1
    | cons b later =>
        rw [List.cons_append, List.cons.injEq] at heq
        rw [List.mem_cons, not_or] at hnot
        exact Or.inr ⟨fun ha => hnot.1 (ha.symm.trans heq.1), later, earlier, heq.2, hnot.2⟩
  · rintro (rfl | ⟨hne, later, earlier, rfl, hnot⟩)
    · exact ⟨[], h, rfl, List.not_mem_nil⟩
    · refine ⟨a :: later, earlier, rfl, ?_⟩
      rw [List.mem_cons, not_or]
      exact ⟨hne.symm, hnot⟩

instance Since.decidable [DecidableEq β] (e undo : β) : (h : List β) → Decidable (Since e undo h)
  | [] => isFalse not_since_nil
  | _ :: h =>
      have := Since.decidable e undo h
      decidable_of_iff _ since_cons.symm

end

namespace QueueEvent

variable {α : Type}

/-- The item was added since it was last given out. -/
def Unserved (x : α) (h : List (QueueEvent α)) : Prop := Since (.added x) (.handedOut x) h

/-- The item was given out and is not back. -/
def InHands (x : α) (h : List (QueueEvent α)) : Prop := Since (.handedOut x) (.returned x) h

instance [DecidableEq α] (x : α) (h : List (QueueEvent α)) : Decidable (Unserved x h) :=
  inferInstanceAs (Decidable (Since _ _ h))

instance [DecidableEq α] (x : α) (h : List (QueueEvent α)) : Decidable (InHands x h) :=
  inferInstanceAs (Decidable (Since _ _ h))

section

variable {x y : α} {h : List (QueueEvent α)}

@[simp] theorem not_unserved_nil : ¬ Unserved x [] := not_since_nil

@[simp] theorem not_inHands_nil : ¬ InHands x [] := not_since_nil

@[simp] theorem unserved_added : Unserved x (.added y :: h) ↔ x = y ∨ Unserved x h := by
  simp [Unserved, since_cons, eq_comm]

@[simp] theorem unserved_handedOut : Unserved x (.handedOut y :: h) ↔ x ≠ y ∧ Unserved x h := by
  simp [Unserved, since_cons, eq_comm]

@[simp] theorem unserved_returned : Unserved x (.returned y :: h) ↔ Unserved x h := by
  simp [Unserved, since_cons]

@[simp] theorem inHands_added : InHands x (.added y :: h) ↔ InHands x h := by
  simp [InHands, since_cons]

@[simp] theorem inHands_handedOut : InHands x (.handedOut y :: h) ↔ x = y ∨ InHands x h := by
  simp [InHands, since_cons, eq_comm]

@[simp] theorem inHands_returned : InHands x (.returned y :: h) ↔ x ≠ y ∧ InHands x h := by
  simp [InHands, since_cons, eq_comm]

end

/-- The items that were given out, in their order. -/
def handOuts : List (QueueEvent α) → List α
  | [] => []
  | .added _ :: h => handOuts h
  | .handedOut x :: h => handOuts h ++ [x]
  | .returned _ :: h => handOuts h

/-- The items that became ready, in their order: when they were added and nobody had them, or when
they came back and had been added meanwhile. -/
def readied [DecidableEq α] : List (QueueEvent α) → List α
  | [] => []
  | .added x :: h => if Unserved x h ∨ InHands x h then readied h else readied h ++ [x]
  | .handedOut _ :: h => readied h
  | .returned x :: h => if Unserved x h then readied h ++ [x] else readied h

/-- An item was given out only if it had been added. -/
def Earned (h : List (QueueEvent α)) : Prop :=
  ∀ x later earlier, h = later ++ .handedOut x :: earlier → Unserved x earlier

theorem Earned.cons {e : QueueEvent α} {h : List (QueueEvent α)} (hearned : Earned h)
    (hhead : ∀ x, e = .handedOut x → Unserved x h) : Earned (e :: h) := by
  intro x later earlier heq
  cases later with
  | nil =>
      rw [List.nil_append, List.cons.injEq] at heq
      exact heq.2 ▸ hhead x heq.1
  | cons e' later =>
      rw [List.cons_append, List.cons.injEq] at heq
      exact hearned x later earlier heq.2

theorem Earned.tail {e : QueueEvent α} {h : List (QueueEvent α)} (hearned : Earned (e :: h)) :
    Earned h :=
  fun x later earlier heq => hearned x (e :: later) earlier (by rw [heq, List.cons_append])

/-- Between two hand-outs of an item it is added. -/
theorem Earned.added_between {h : List (QueueEvent α)} (hearned : Earned h) (x : α)
    (later between earlier : List (QueueEvent α))
    (heq : h = later ++ .handedOut x :: (between ++ .handedOut x :: earlier)) :
    .added x ∈ between := by
  obtain ⟨after, before, hsplit, hnot⟩ := hearned x later _ heq
  rcases List.append_eq_append_iff.mp hsplit with ⟨rest, hafter, hrest⟩ | ⟨rest, hbetween, hrest⟩
  · cases rest with
    | nil => simp at hrest
    | cons e rest =>
        rw [List.cons_append, List.cons.injEq] at hrest
        rw [hafter, ← hrest.1] at hnot
        exact absurd (List.mem_append_right between List.mem_cons_self) hnot
  · cases rest with
    | nil => simp at hrest
    | cons e rest =>
        rw [List.cons_append, List.cons.injEq] at hrest
        rw [hbetween, ← hrest.1]
        exact List.mem_append_right after List.mem_cons_self

variable [DecidableEq α]

theorem Earned.count_le {h : List (QueueEvent α)} (hearned : Earned h) (x : α) :
    h.count (.handedOut x) + (if Unserved x h then 1 else 0) ≤ h.count (.added x) := by
  induction h with
  | nil => simp
  | cons e h ih =>
      have hle := ih hearned.tail
      cases e with
      | added y =>
          by_cases hyx : y = x
          · subst hyx
            rw [List.count_cons_of_ne (by simp), List.count_cons_self]
            split_ifs at hle ⊢ <;> omega
          · have hne : QueueEvent.added y ≠ .added x := by simpa using hyx
            rw [List.count_cons_of_ne (by simp), List.count_cons_of_ne hne]
            simpa [Ne.symm hyx] using hle
      | handedOut y =>
          by_cases hyx : y = x
          · subst hyx
            rw [if_pos (hearned y [] h rfl)] at hle
            rw [List.count_cons_self, List.count_cons_of_ne (by simp), if_neg (by simp)]
            omega
          · have hne : QueueEvent.handedOut y ≠ .handedOut x := by simpa using hyx
            rw [List.count_cons_of_ne hne, List.count_cons_of_ne (by simp)]
            simpa [Ne.symm hyx] using hle
      | returned y =>
          rw [List.count_cons_of_ne (by simp), List.count_cons_of_ne (by simp)]
          simpa using hle

theorem Earned.handedOut_once {recent past : List (QueueEvent α)} (hearned : Earned (recent ++ past))
    {x : α} (hnot : .added x ∉ recent) : recent.count (.handedOut x) ≤ 1 := by
  by_contra hcount
  have hmem : .handedOut x ∈ recent := List.count_pos_iff.mp (by omega)
  obtain ⟨later, rest, rfl, hlater⟩ := List.eq_append_cons_of_mem hmem
  have hrest : .handedOut x ∈ rest := by
    rw [List.count_append, List.count_eq_zero_of_not_mem hlater, List.count_cons_self] at hcount
    exact List.count_pos_iff.mp (by omega)
  obtain ⟨between, earlier, rfl⟩ := List.append_of_mem hrest
  have hadded : .added x ∈ between :=
    hearned.added_between x later between (earlier ++ past) (by simp)
  exact hnot (by simp [hadded])

/-- The backlog is what its history says. -/
structure Accounts (h : List (QueueEvent α)) (b : Backlog α) : Prop where
  dirty_iff : ∀ x, x ∈ b.dirty ↔ Unserved x h
  processing_iff : ∀ x, x ∈ b.processing ↔ InHands x h
  readied_eq : readied h = handOuts h ++ b.ready
  earned : Earned h

theorem Accounts.start : Accounts [] ({} : Backlog α) where
  dirty_iff x := iff_of_false List.not_mem_nil not_unserved_nil
  processing_iff x := iff_of_false List.not_mem_nil not_inHands_nil
  readied_eq := rfl
  earned _ later _ heq := by simp at heq

variable {h : List (QueueEvent α)} {b : Backlog α} {x : α}

theorem Accounts.add (hacc : Accounts h b) (hopen : b.shuttingDown = false) :
    Accounts (.added x :: h) (b.add x) where
  dirty_iff y := by rw [Backlog.mem_dirty_add b x hopen, unserved_added, hacc.dirty_iff]
  processing_iff y := by rw [Backlog.add_processing, inHands_added, hacc.processing_iff]
  readied_eq := by
    rw [readied, handOuts, Backlog.add_ready, hacc.readied_eq]
    by_cases hd : x ∈ b.dirty
    · have hadmits : b.admits x = false := by simp [Backlog.admits, hd]
      simp [hadmits, (hacc.dirty_iff x).mp hd]
    · have hadmits : b.admits x = true := (Backlog.admits_iff b x).mpr ⟨hopen, hd⟩
      by_cases hp : x ∈ b.processing
      · simp [hp, (hacc.processing_iff x).mp hp]
      · have hserved := mt (hacc.dirty_iff x).mpr hd
        have hback := mt (hacc.processing_iff x).mpr hp
        simp [hadmits, hp, hserved, hback]
  earned := hacc.earned.cons fun _ heq => by cases heq

theorem Accounts.handOver (hacc : Accounts h b) (hb : b.WellFormed) {rest : List α}
    (hready : b.ready = x :: rest) : Accounts (.handedOut x :: h) (b.handOver x rest) where
  dirty_iff y := by
    rw [Backlog.handOver, unserved_handedOut, ← hacc.dirty_iff, hb.dirty_nodup.mem_erase_iff]
  processing_iff y := by
    rw [Backlog.handOver, inHands_handedOut, ← hacc.processing_iff, List.mem_cons,
      hb.processing_nodup.mem_erase_iff]
    by_cases hyx : y = x <;> simp [hyx]
  readied_eq := by
    rw [readied, handOuts, hacc.readied_eq, hready, Backlog.handOver, List.append_assoc,
      List.singleton_append]
  earned := by
    refine hacc.earned.cons fun y heq => ?_
    cases heq
    exact (hacc.dirty_iff x).mp (hb.dirty_of_ready x (hready ▸ List.mem_cons_self))

theorem Accounts.done (hacc : Accounts h b) (hb : b.WellFormed) (hopen : b.shuttingDown = false) :
    Accounts (.returned x :: h) (b.done x) where
  dirty_iff y := by rw [Backlog.done_dirty, unserved_returned, hacc.dirty_iff]
  processing_iff y := by
    rw [Backlog.done_processing, inHands_returned, ← hacc.processing_iff,
      hb.processing_nodup.mem_erase_iff]
  readied_eq := by
    rw [readied, handOuts, Backlog.done_ready, hacc.readied_eq]
    by_cases hd : x ∈ b.dirty
    · simp [hd, hopen, (hacc.dirty_iff x).mp hd]
    · simp [hd, mt (hacc.dirty_iff x).mpr hd]
  earned := hacc.earned.cons fun _ heq => by cases heq

end QueueEvent

namespace SharedQueue
open QueueEvent

variable {L α ι : Type} [DecidableEq α] [DecidableEq ι]

theorem accounts_turn {s s' : SharedQueue L α ι} {e : Option (QueueEvent α)}
    {h : List (QueueEvent α)} (hturn : Turn s e s') (hs : s.InOrder)
    (hopen : s'.queue.backlog.shuttingDown = false) (hacc : Accounts h s.queue.backlog) :
    Accounts (e.toList ++ h) s'.queue.backlog := by
  have hopen' := shuttingDown_turn hturn hopen
  cases hturn with
  | idle hbacklog =>
      rw [hbacklog]
      exact hacc
  | closed hbacklog =>
      rw [hbacklog] at hopen
      simp [Backlog.shutDown] at hopen
  | added x hbacklog =>
      rw [hbacklog]
      exact hacc.add hopen'
  | handedOut w x rest _ hready hbacklog =>
      rw [hbacklog]
      exact hacc.handOver hs.backlog hready
  | returned w x _ hbacklog =>
      rw [hbacklog]
      exact hacc.done hs.backlog hopen'

variable [RateLimiter L α]

/-- What happened when a queue and then each of its successors was acted upon, after what had
happened before. -/
def historyFrom (s : SharedQueue L α ι) (h : List (QueueEvent α)) :
    List (QueueAct α ι) → List (QueueEvent α)
  | [] => h
  | a :: acts => historyFrom (s.perform a) ((s.event? a).toList ++ h) acts

/-- The history of a fresh queue and some acts. -/
def history (limiter : L) (acts : List (QueueAct α ι)) : List (QueueEvent α) :=
  historyFrom { queue := { limiter } } [] acts

theorem historyFrom_concat (s : SharedQueue L α ι) (h : List (QueueEvent α))
    (acts : List (QueueAct α ι)) (a : QueueAct α ι) :
    s.historyFrom h (acts ++ [a]) =
      ((acts.foldl perform s).event? a).toList ++ s.historyFrom h acts := by
  induction acts generalizing s h with
  | nil => rfl
  | cons a' acts ih =>
      rw [List.cons_append, historyFrom, ih, historyFrom, List.foldl_cons]

theorem run_accounts (limiter : L) (acts : List (QueueAct α ι))
    (hopen : (run limiter acts).queue.backlog.shuttingDown = false) :
    Accounts (history limiter acts) (run limiter acts).queue.backlog := by
  induction acts using List.reverseRecOn with
  | nil => exact .start
  | append_singleton acts a ih =>
      rw [run_concat] at hopen
      have hturn := perform_turn (run limiter acts) a
      rw [history, historyFrom_concat, run_concat]
      exact accounts_turn hturn (run_inOrder limiter acts) hopen (ih (shuttingDown_turn hturn hopen))

/-- **No addition is lost, and none counts twice.** Until the shutdown an item is dirty exactly if it
was added after it was last given out; between two hand-outs of an item it is added; items are given
out in the order in which they became ready; and with all hands empty the queue lists the items with
an unserved addition, once each. -/
theorem handOuts_serve_additions (limiter : L) (acts : List (QueueAct α ι))
    (hopen : (run limiter acts).queue.backlog.shuttingDown = false) :
    (∀ x, x ∈ (run limiter acts).queue.backlog.dirty ↔ Unserved x (history limiter acts)) ∧
    (∀ x later between earlier,
      history limiter acts = later ++ .handedOut x :: (between ++ .handedOut x :: earlier) →
        .added x ∈ between) ∧
    (∀ x, (history limiter acts).count (.handedOut x) ≤ (history limiter acts).count (.added x)) ∧
    (∀ x recent past, history limiter acts = recent ++ past → .added x ∉ recent →
      recent.count (.handedOut x) ≤ 1) ∧
    readied (history limiter acts) =
      handOuts (history limiter acts) ++ (run limiter acts).queue.backlog.ready ∧
    ((run limiter acts).queue.backlog.processing = [] →
      (run limiter acts).queue.backlog.ready.Nodup ∧
      ∀ x, x ∈ (run limiter acts).queue.backlog.ready ↔ Unserved x (history limiter acts)) := by
  have hacc := run_accounts limiter acts hopen
  have hb := (run_inOrder limiter acts).backlog
  refine ⟨hacc.dirty_iff, hacc.earned.added_between, ?_, ?_, hacc.readied_eq, ?_⟩
  · intro x
    have hle := hacc.earned.count_le x
    omega
  · intro x recent past heq hnot
    exact (heq ▸ hacc.earned).handedOut_once hnot
  · intro hidle
    refine ⟨hb.ready_nodup, fun x => ?_⟩
    rw [← hacc.dirty_iff]
    refine ⟨hb.dirty_of_ready x, fun hx => (hb.ready_iff hopen hx).mpr ?_⟩
    rw [hidle]
    exact List.not_mem_nil

/-- Two workers. Item 7 is handed to one of them and added twice before it is back. -/
def busyActs : List (QueueAct Nat Bool) :=
  [.input (.add 7), .input (.add 8), .get true, .input (.add 7), .input (.addAfter .zero 7 .zero),
    .get false, .done true 7, .done false 8]

theorem handOuts_serve_additions_busy :
    (run (.longest [] : Limiter Float Nat) busyActs).queue.backlog.shuttingDown = false ∧
    readied (history (.longest [] : Limiter Float Nat) busyActs) = [7, 8, 7] ∧
    handOuts (history (.longest [] : Limiter Float Nat) busyActs) = [7, 8] ∧
    (7 ∈ (run (.longest [] : Limiter Float Nat) busyActs).queue.backlog.ready ↔
      Unserved 7 (history (.longest [] : Limiter Float Nat) busyActs)) := by
  have hopen : (run (.longest [] : Limiter Float Nat) busyActs).queue.backlog.shuttingDown = false :=
    by decide
  have hidle : (run (.longest [] : Limiter Float Nat) busyActs).queue.backlog.processing = [] := by
    decide
  obtain ⟨_, _, _, _, _, hempty⟩ :=
    handOuts_serve_additions (.longest [] : Limiter Float Nat) busyActs hopen
  exact ⟨hopen, by decide, by decide, (hempty hidle).2 7⟩

end SharedQueue
end RegistryOperator
