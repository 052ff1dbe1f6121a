import Mathlib.Data.String.Basic
import RegistryOperator.Proofs.Json.Changes
import RegistryOperator.Resource.ImageRegistry

/-! The documents that registries are written as. No name is repeated in them, unless one is in what
is kept among the managed fields. -/

namespace RegistryOperator

namespace Json

variable {fields : List (String × Option Json)} {α : Type}

theorem tidy_str (s : String) : (str s).Tidy := trivial

theorem tidy_bool (b : Bool) : (bool b).Tidy := trivial

theorem tidy_int (n : Int) : (int n).Tidy := trivial

theorem forall_tidy_map {o : Option α} {f : α → Json} :
    (∀ j ∈ o.map f, j.Tidy) ↔ ∀ a ∈ o, (f a).Tidy := by
  cases o <;> simp

theorem forall_tidy_some {j : Json} : (∀ k ∈ some j, k.Tidy) ↔ j.Tidy := by
  simp

theorem tidyItems_map {f : α → Json} {as : List α} (h : ∀ a ∈ as, (f a).Tidy) :
    TidyItems (as.map f) := by
  induction as with
  | nil => trivial
  | cons a as ih =>
      exact ⟨h a List.mem_cons_self, ih fun a' ha' => h a' (List.mem_cons_of_mem _ ha')⟩

theorem tidy_record (hnames : (fields.map Prod.fst).Nodup)
    (h : ∀ field ∈ fields, ∀ j ∈ field.2, j.Tidy) : (record fields).Tidy := by
  refine ⟨hnames.sublist keys_present, ?_⟩
  clear hnames
  induction fields with
  | nil => trivial
  | cons field fields ih =>
      obtain ⟨k, v⟩ := field
      have hrest := ih fun field hfield => h field (List.mem_cons_of_mem _ hfield)
      cases v with
      | none => exact hrest
      | some j => exact ⟨h _ List.mem_cons_self j rfl, hrest⟩

end Json

open Json (tidy_str tidy_bool tidy_int forall_tidy_map forall_tidy_some tidyItems_map tidy_record)

theorem StringMap.toJson_tidy (m : StringMap) : m.toJson.Tidy := by
  have hkeys : (m.entries.map Prod.fst).Nodup :=
    List.pairwise_map.mpr (m.sorted.imp fun hlt => hlt.ne)
  refine ⟨by simpa [Function.comp_def] using hkeys, ?_⟩
  clear hkeys
  induction m.entries with
  | nil => trivial
  | cons e entries ih => exact ⟨trivial, ih⟩

/-- No name is repeated in what is kept among the managed fields. -/
def Metadata.Tidy (m : Metadata) : Prop :=
  ∀ fs ∈ m.managedFields, ∀ f ∈ fs, ∀ j ∈ f.fields, j.Tidy

theorem OwnerReference.toJson_tidy (r : OwnerReference) : r.toJson.Tidy := by
  refine tidy_record (by simp) ?_
  simp only [List.forall_mem_cons, forall_tidy_some, forall_tidy_map, tidy_str, tidy_bool]
  simp

theorem ManagedFields.toJson_tidy {m : ManagedFields} (h : ∀ j ∈ m.fields, j.Tidy) :
    m.toJson.Tidy := by
  refine tidy_record (by simp) ?_
  simp only [List.forall_mem_cons, forall_tidy_map, tidy_str]
  simpa using h

theorem Metadata.toJson_tidy {m : Metadata} (h : m.Tidy) : m.toJson.Tidy := by
  have hfinalizers (fs : List String) : (Json.arr (fs.map .str)).Tidy :=
    tidyItems_map fun _ _ => trivial
  have howners (rs : List OwnerReference) : (Json.arr (rs.map OwnerReference.toJson)).Tidy :=
    tidyItems_map fun r _ => r.toJson_tidy
  have hmanaged : ∀ fs ∈ m.managedFields, (Json.arr (fs.map ManagedFields.toJson)).Tidy :=
    fun fs hfs => tidyItems_map fun f hf => ManagedFields.toJson_tidy (h fs hfs f hf)
  refine tidy_record (by simp) ?_
  simp only [List.forall_mem_cons, forall_tidy_map, tidy_str, tidy_int, StringMap.toJson_tidy,
    hfinalizers, howners]
  simpa using hmanaged

theorem RegistryStorage.toJson_tidy (s : RegistryStorage) : s.toJson.Tidy := by
  refine tidy_record (by simp) ?_
  simp only [List.forall_mem_cons, forall_tidy_map]
  simp [Json.Tidy, Json.TidyMembers]

theorem RegistrySpec.toJson_tidy (s : RegistrySpec) : s.toJson.Tidy := by
  refine tidy_record (by simp) ?_
  simp only [List.forall_mem_cons, forall_tidy_some, forall_tidy_map, tidy_str, tidy_int,
    s.storage.toJson_tidy]
  simp

theorem Condition.toJson_tidy (c : Condition) : c.toJson.Tidy := by
  refine tidy_record (by simp) ?_
  simp only [List.forall_mem_cons, forall_tidy_some, forall_tidy_map, tidy_str]
  simp

theorem RegistryStatus.toJson_tidy (s : RegistryStatus) : s.toJson.Tidy :=
  ⟨by simp, trivial, trivial, tidyItems_map fun c _ => c.toJson_tidy, trivial⟩

end RegistryOperator
