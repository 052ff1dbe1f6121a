import Mathlib.Tactic.SplitIfs
import RegistryOperator.Resource.ImageRegistry

/-! What the operator may change of the registry's metadata: whether its own finalizer is there. The
version is changed by the server. All the rest belongs to others, their finalizers included, with
their order and number. -/

namespace RegistryOperator
namespace Metadata

/-- What of the metadata belongs to others. -/
def foreign (m : Metadata) : Metadata :=
  { m with
    finalizers := some ((m.finalizers.getD []).filter (· ≠ ImageRegistry.finalizer))
    resourceVersion := none }

variable (m : Metadata)

@[simp] theorem addFinalizer_resourceVersion (finalizer : String) :
    (m.addFinalizer finalizer).resourceVersion = m.resourceVersion := by
  unfold addFinalizer
  split <;> rfl

theorem addFinalizer_specGeneration (finalizer : String) :
    (m.addFinalizer finalizer).specGeneration = m.specGeneration := by
  unfold addFinalizer
  split <;> rfl

theorem hasFinalizer_congr {m m' : Metadata} (finalizer : String)
    (h : m.finalizers = m'.finalizers) : m.hasFinalizer finalizer = m'.hasFinalizer finalizer := by
  rw [hasFinalizer, hasFinalizer, h]

theorem hasFinalizer_addFinalizer (finalizer : String) :
    (m.addFinalizer finalizer).hasFinalizer finalizer = true := by
  unfold addFinalizer
  split_ifs with h
  · exact h
  · simp [hasFinalizer]

theorem addFinalizer_eq (finalizer : String) :
    m.addFinalizer finalizer = { m with finalizers := (m.addFinalizer finalizer).finalizers } := by
  unfold addFinalizer
  split <;> rfl

theorem addFinalizer_of_hasFinalizer {finalizer : String} (h : m.hasFinalizer finalizer = true) :
    m.addFinalizer finalizer = m :=
  if_pos h

theorem hasFinalizer_removeFinalizer (finalizer : String) :
    (m.removeFinalizer finalizer).hasFinalizer finalizer = false := by
  cases hfinalizers : m.finalizers <;> simp [hasFinalizer, removeFinalizer, hfinalizers]

theorem foreign_addFinalizer : (m.addFinalizer ImageRegistry.finalizer).foreign = m.foreign := by
  unfold addFinalizer
  split
  · rfl
  · simp [foreign]

theorem foreign_removeFinalizer :
    (m.removeFinalizer ImageRegistry.finalizer).foreign = m.foreign := by
  cases hfinalizers : m.finalizers <;> simp [foreign, removeFinalizer, hfinalizers]

end Metadata

namespace ImageRegistry

/-- What of a registry does not belong to the operator when it writes metadata and spec. -/
def foreign (r : ImageRegistry) : ImageRegistry := { r with metadata := r.metadata.foreign }

theorem foreign_eq_iff {r r' : ImageRegistry} : r.foreign = r'.foreign ↔
    r.metadata.foreign = r'.metadata.foreign ∧ r.spec = r'.spec ∧ r.status = r'.status := by
  simp only [foreign, mk.injEq]

/-- The registry at a version. -/
def stamped (r : ImageRegistry) (version : String) : ImageRegistry :=
  { r with metadata := { r.metadata with resourceVersion := some version } }

end ImageRegistry
end RegistryOperator
