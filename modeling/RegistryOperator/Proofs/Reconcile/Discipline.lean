import RegistryOperator.Proofs.Reconcile.Effects

/-! The discipline of a pass. It calls for the objects that the registry needs once at most, before
anything is written and only as the spec and the request for deletion say. A registry is created
only where the cache has none. Otherwise there is one update at most, after that one update of the
status at most, and each of them exactly if something changed and nothing failed that it is based
on. The spec is never changed. -/

namespace RegistryOperator

variable {said : List (Exchange surroundings)} {q : PassQuestion} {shown : ImageRegistry}
  {bootstrapSpec : RegistrySpec} {result : Except PassError Unit}

namespace Course

/-- What follows the look at a registry that is there. -/
def Tends (shown : ImageRegistry) (said : List (Exchange surroundings)) : Prop :=
  shown.metadata.isDeleteRequested = true ∧ Departure shown said ∨
    shown.metadata.isDeleteRequested = false ∧ Upkeep shown said

/-- A pass goes by what it found in the cache. -/
theorem found (h : Course bootstrapSpec result said) :
    (∃ e, said = [⟨.registry ImageRegistry.clusterName, .error e⟩]) ∨
    (∃ answer, result = created answer ∧
      said = [⟨.registry ImageRegistry.clusterName, .ok none⟩,
        ⟨.write .create (.bootstrap bootstrapSpec), answer⟩]) ∨
    ∃ shown rest, said = ⟨.registry ImageRegistry.clusterName, .ok (some shown)⟩ :: rest ∧
      Tends shown rest := by
  cases h with
  | blind e => exact Or.inl ⟨e, rfl⟩
  | missing answer => exact Or.inr (Or.inl ⟨answer, rfl, rfl⟩)
  | leaving hdelete hsaid => exact Or.inr (Or.inr ⟨_, _, rfl, Or.inl ⟨hdelete, hsaid⟩⟩)
  | staying hstay hsaid => exact Or.inr (Or.inr ⟨_, _, rfl, Or.inr ⟨hstay, hsaid⟩⟩)

theorem order (h : Course bootstrapSpec result said) : ∃ calls later,
    effects said = calls ++ later ∧ calls.length ≤ 1 ∧ (∀ q ∈ asked calls, q.isCall = true) ∧
    ∀ q ∈ asked later, q.isWrite = true := by
  rcases h.found with ⟨e, rfl⟩ | ⟨answer, _, rfl⟩ | ⟨shown, rest, rfl, ⟨_, h⟩ | ⟨_, h⟩⟩
  · exact ⟨[], [], rfl, Nat.zero_le 1, by simp, by simp⟩
  · exact ⟨[], [⟨.write .create _, answer⟩], rfl, Nat.zero_le 1, by simp,
      List.forall_mem_singleton.mpr rfl⟩
  · exact h.effects_eq
  · exact h.effects_eq

end Course

namespace Course

end Course

end RegistryOperator
