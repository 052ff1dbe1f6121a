import Mathlib.Data.List.Nodup
import RegistryOperator.Queue.Backlog

/-! How the three collections of a backlog hang together, and that each operation keeps it so. Of the
items that were added and not given out since, those in nobody's hands stand in the queue, once each;
the others wait for their worker. After the shutdown an item may come back without being queued, so
the last part holds only before it. -/

namespace RegistryOperator.Backlog

variable {α : Type}

/-- A backlog that is in order. -/
structure WellFormed (b : Backlog α) : Prop where
  ready_nodup : b.ready.Nodup
  dirty_nodup : b.dirty.Nodup
  processing_nodup : b.processing.Nodup
  dirty_of_ready : ∀ x ∈ b.ready, x ∈ b.dirty
  idle_of_ready : ∀ x ∈ b.ready, x ∉ b.processing
  ready_or_processing : b.shuttingDown = false → ∀ x ∈ b.dirty, x ∈ b.ready ∨ x ∈ b.processing

/-- Before the shutdown a dirty item is queued or worked on, and not both. -/
theorem WellFormed.ready_iff {b : Backlog α} (h : b.WellFormed) (hopen : b.shuttingDown = false)
    {x : α} (hx : x ∈ b.dirty) : x ∈ b.ready ↔ x ∉ b.processing :=
  ⟨h.idle_of_ready x, (h.ready_or_processing hopen x hx).resolve_right⟩

theorem WellFormed.empty : WellFormed ({} : Backlog α) where
  ready_nodup := List.nodup_nil
  dirty_nodup := List.nodup_nil
  processing_nodup := List.nodup_nil
  dirty_of_ready _ hx := absurd hx List.not_mem_nil
  idle_of_ready _ hx := absurd hx List.not_mem_nil
  ready_or_processing _ _ hx := absurd hx List.not_mem_nil

theorem WellFormed.shutDown {b : Backlog α} (h : b.WellFormed) : b.shutDown.WellFormed where
  ready_nodup := h.ready_nodup
  dirty_nodup := h.dirty_nodup
  processing_nodup := h.processing_nodup
  dirty_of_ready := h.dirty_of_ready
  idle_of_ready := h.idle_of_ready
  ready_or_processing hopen := by simp [Backlog.shutDown] at hopen

variable [DecidableEq α] (b : Backlog α) (x : α)

/-! ### What each operation does to the collections -/

theorem admits_iff : b.admits x = true ↔ b.shuttingDown = false ∧ x ∉ b.dirty := by
  simp [admits]

@[simp] theorem add_shuttingDown : (b.add x).shuttingDown = b.shuttingDown := by
  unfold add
  split_ifs <;> rfl

@[simp] theorem add_processing : (b.add x).processing = b.processing := by
  unfold add
  split_ifs <;> rfl

theorem add_dirty : (b.add x).dirty = if b.admits x then x :: b.dirty else b.dirty := by
  unfold add
  split_ifs <;> rfl

/-- An item that is added while it is idle joins the queue at its end. -/
theorem add_ready :
    (b.add x).ready = if b.admits x ∧ x ∉ b.processing then b.ready ++ [x] else b.ready := by
  unfold add
  cases hadmits : b.admits x with
  | false => simp
  | true => by_cases hp : x ∈ b.processing <;> simp [hp]

theorem mem_dirty_add (hopen : b.shuttingDown = false) {y : α} :
    y ∈ (b.add x).dirty ↔ y = x ∨ y ∈ b.dirty := by
  rw [add_dirty]
  split_ifs with hadmits
  · exact List.mem_cons
  · rw [admits_iff] at hadmits
    have hx : x ∈ b.dirty := by
      by_contra hx
      exact hadmits ⟨hopen, hx⟩
    exact ⟨Or.inr, fun h => h.elim (fun heq => heq ▸ hx) id⟩

theorem add_add : (b.add x).add x = b.add x := by
  have hadmits : (b.add x).admits x = false := by
    cases hdown : b.shuttingDown with
    | true => simp [admits, hdown]
    | false => simp [admits, mem_dirty_add b x hdown]
  rw [add, hadmits]
  rfl

def handOver (rest : List α) : Backlog α :=
  { b with ready := rest, dirty := b.dirty.erase x, processing := x :: b.processing.erase x }

/-- Asking for an item either gives out the first one, or leaves everything as it is. -/
theorem take_cases :
    (∃ x rest, b.shuttingDown = false ∧ b.ready = x :: rest ∧
      b.take = (.item x, b.handOver x rest)) ∨
    (b.shuttingDown = false ∧ b.ready = [] ∧ b.take = (.nothing, b)) ∨
    (b.shuttingDown = true ∧ b.take = (.shutDown, b)) := by
  unfold take
  cases hdown : b.shuttingDown with
  | true => exact Or.inr (Or.inr ⟨rfl, rfl⟩)
  | false =>
      cases hready : b.ready with
      | nil => exact Or.inr (Or.inl ⟨rfl, rfl, by simp⟩)
      | cons x rest => exact Or.inl ⟨x, rest, rfl, rfl, by simp [handOver, hdown]⟩

@[simp] theorem done_shuttingDown : (b.done x).shuttingDown = b.shuttingDown := by
  unfold done
  dsimp only
  split_ifs <;> rfl

@[simp] theorem done_dirty : (b.done x).dirty = b.dirty := by
  unfold done
  dsimp only
  split_ifs <;> rfl

@[simp] theorem done_processing : (b.done x).processing = b.processing.erase x := by
  unfold done
  dsimp only
  split_ifs <;> rfl

/-- An item that is returned while it is dirty joins the queue at its end. -/
theorem done_ready :
    (b.done x).ready =
      if x ∈ b.dirty ∧ b.shuttingDown = false then b.ready ++ [x] else b.ready := by
  unfold done
  cases hdown : b.shuttingDown with
  | true => simp
  | false => by_cases hd : x ∈ b.dirty <;> simp [hd]

/-! ### What each operation keeps -/

namespace WellFormed

variable {b : Backlog α} {x : α}

theorem add (h : b.WellFormed) : (b.add x).WellFormed := by
  have hready : ∀ {y}, y ∈ (b.add x).ready → y ∈ b.ready ∨ (y = x ∧ b.admits x ∧ x ∉ b.processing) := by
    intro y hy
    rw [add_ready] at hy
    split_ifs at hy with hjoin
    · rcases List.mem_append.mp hy with hy | hy
      · exact Or.inl hy
      · exact Or.inr ⟨List.mem_singleton.mp hy, hjoin⟩
    · exact Or.inl hy
  have hgrow : ∀ {y}, y ∈ b.dirty → y ∈ (b.add x).dirty := by
    intro y hy
    rw [add_dirty]
    split_ifs
    · exact List.mem_cons_of_mem _ hy
    · exact hy
  refine ⟨?_, ?_, by rw [add_processing]; exact h.processing_nodup, ?_, ?_, ?_⟩
  · rw [add_ready]
    split_ifs with hjoin
    · have hx : x ∉ b.ready := fun hx => ((admits_iff b x).mp hjoin.1).2 (h.dirty_of_ready x hx)
      exact List.concat_eq_append ▸ h.ready_nodup.concat hx
    · exact h.ready_nodup
  · rw [add_dirty]
    split_ifs with hadmits
    · exact List.nodup_cons.mpr ⟨((admits_iff b x).mp hadmits).2, h.dirty_nodup⟩
    · exact h.dirty_nodup
  · intro y hy
    rcases hready hy with hy | ⟨rfl, hadmits, _⟩
    · exact hgrow (h.dirty_of_ready y hy)
    · rw [add_dirty, if_pos hadmits]
      exact List.mem_cons_self
  · intro y hy
    rw [add_processing]
    rcases hready hy with hy | ⟨rfl, _, hidle⟩
    · exact h.idle_of_ready y hy
    · exact hidle
  · intro hopen y hy
    rw [add_shuttingDown] at hopen
    rw [add_processing, add_ready]
    -- A new item is queued unless someone has it; an old one stays where it was.
    by_cases hp : y ∈ b.processing
    · exact Or.inr hp
    left
    by_cases hd : y ∈ b.dirty
    · have hr := (h.ready_or_processing hopen y hd).resolve_right hp
      split_ifs
      · exact List.mem_append_left _ hr
      · exact hr
    · have hyx : y = x := ((mem_dirty_add b x hopen).mp hy).resolve_right hd
      subst hyx
      rw [if_pos ⟨(admits_iff b y).mpr ⟨hopen, hd⟩, hp⟩]
      exact List.mem_append_right _ (List.mem_singleton_self y)

theorem handOver (h : b.WellFormed) {rest : List α} (hready : b.ready = x :: rest) :
    (b.handOver x rest).WellFormed := by
  have hnodup := h.ready_nodup
  rw [hready, List.nodup_cons] at hnodup
  have hmem : ∀ {y}, y ∈ rest → y ∈ b.ready := fun hy => hready ▸ List.mem_cons_of_mem _ hy
  have hne : ∀ {y}, y ∈ rest → y ≠ x := fun hy hyx => hnodup.1 (hyx ▸ hy)
  have hidle : x ∉ b.processing := h.idle_of_ready x (hready ▸ List.mem_cons_self)
  have hproc : (b.handOver x rest).processing = x :: b.processing := by
    simp [Backlog.handOver, List.erase_of_not_mem hidle]
  refine ⟨hnodup.2, h.dirty_nodup.erase x, ?_, ?_, ?_, ?_⟩
  · rw [hproc]
    exact List.nodup_cons.mpr ⟨hidle, h.processing_nodup⟩
  · intro y hy
    exact (List.mem_erase_of_ne (hne hy)).mpr (h.dirty_of_ready y (hmem hy))
  · intro y hy hpy
    rw [hproc] at hpy
    rcases List.mem_cons.mp hpy with hyx | hpy
    · exact hne hy hyx
    · exact h.idle_of_ready y (hmem hy) hpy
  · intro hopen y hy
    obtain ⟨hyx, hy⟩ := h.dirty_nodup.mem_erase_iff.mp hy
    rw [hproc]
    rcases h.ready_or_processing hopen y hy with hr | hp
    · rw [hready] at hr
      exact Or.inl ((List.mem_cons.mp hr).resolve_left hyx)
    · exact Or.inr (List.mem_cons_of_mem _ hp)

theorem done (h : b.WellFormed) (hx : x ∈ b.processing) : (b.done x).WellFormed := by
  have hidle : ∀ y ∈ b.ready, y ∉ b.processing.erase x :=
    fun y hy hp => h.idle_of_ready y hy (List.mem_of_mem_erase hp)
  refine ⟨?_, by rw [done_dirty]; exact h.dirty_nodup,
    by rw [done_processing]; exact h.processing_nodup.erase x, ?_, ?_, ?_⟩
  · rw [done_ready]
    split_ifs
    · have hr : x ∉ b.ready := fun hr => h.idle_of_ready x hr hx
      exact List.concat_eq_append ▸ h.ready_nodup.concat hr
    · exact h.ready_nodup
  · intro y hy
    rw [done_dirty]
    rw [done_ready] at hy
    split_ifs at hy with hd
    · rcases List.mem_append.mp hy with hy | hy
      · exact h.dirty_of_ready y hy
      · rw [List.mem_singleton.mp hy]
        exact hd.1
    · exact h.dirty_of_ready y hy
  · intro y hy
    rw [done_processing]
    rw [done_ready] at hy
    split_ifs at hy
    · rcases List.mem_append.mp hy with hy | hy
      · exact hidle y hy
      · rw [List.mem_singleton.mp hy]
        exact h.processing_nodup.not_mem_erase
    · exact hidle y hy
  · intro hopen y hy
    rw [done_shuttingDown] at hopen
    rw [done_dirty] at hy
    rw [done_processing, done_ready]
    by_cases hyx : y = x
    · subst hyx
      rw [if_pos ⟨hy, hopen⟩]
      exact Or.inl (List.mem_append_right _ (List.mem_singleton_self y))
    · rcases h.ready_or_processing hopen y hy with hr | hp
      · left
        split_ifs
        · exact List.mem_append_left _ hr
        · exact hr
      · exact Or.inr ((List.mem_erase_of_ne hyx).mpr hp)

end WellFormed
end RegistryOperator.Backlog
