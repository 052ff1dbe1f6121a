import Mathlib.Data.List.Nodup
import RegistryOperator.Proofs.Cache.Lookup

/-! No two objects of a cache stand at the same key, whatever the events that it went through. So a
key finds every object of the cache, and an object is lost from the cache at most once. -/

namespace RegistryOperator
namespace Cache

variable {α : Type} [Resource α] {c : Cache α} {key : ObjectKey} {e : Entry α}

/-- No two entries are at the same key. -/
def Distinct (c : Cache α) : Prop := (c.entries.map Entry.key).Nodup

theorem Distinct.empty : Distinct ({} : Cache α) := List.nodup_nil

theorem nodup_insertEntry {es : List (Entry α)} (hes : (es.map Entry.key).Nodup) :
    ((insertEntry e es).map Entry.key).Nodup := by
  induction es with
  | nil => simp [insertEntry]
  | cons other rest ih =>
      obtain ⟨hother, hrest⟩ := List.nodup_cons.mp hes
      rw [insertEntry]
      split_ifs with hkey
      · simpa only [List.map_cons, hkey] using hes
      · refine List.nodup_cons.mpr ⟨fun hmem => ?_, ih hrest⟩
        obtain ⟨e', he', hsame⟩ := List.mem_map.mp hmem
        rcases mem_insertEntry he' with rfl | hold
        · exact hkey hsame.symm
        · exact hother (List.mem_map.mpr ⟨e', hold, hsame⟩)

theorem Distinct.insert (hc : c.Distinct) (e : Entry α) : (c.insert e).Distinct :=
  nodup_insertEntry hc

theorem Distinct.erase (hc : c.Distinct) (key : ObjectKey) : (c.erase key).Distinct :=
  hc.sublist (List.filter_sublist.map Entry.key)

theorem Distinct.foldl_insert (hc : c.Distinct) (es : List (Entry α)) :
    (es.foldl Cache.insert c).Distinct := by
  induction es generalizing c with
  | nil => exact hc
  | cons e es ih => exact ih (hc.insert e)

theorem Distinct.apply (hc : c.Distinct) (event : WatchEvent (Entry α)) :
    (c.apply event).Distinct := by
  cases event with
  | applied e => exact hc.insert e
  | deleted e => exact hc.erase e.key
  | restarted es => exact Distinct.empty.foldl_insert es

theorem Distinct.get?_of_mem (hc : c.Distinct) (hmem : e ∈ c.entries) :
    c.get? e.key = some e := by
  have hfound : (c.get? e.key).isSome := List.find?_isSome.mpr ⟨e, hmem, by simp⟩
  obtain ⟨found, hget⟩ := Option.isSome_iff_exists.mp hfound
  rw [hget, List.inj_on_of_nodup_map hc (get?_mem hget) hmem (get?_key hget)]

/-- What a list of all objects lacks is at keys that it does not have. -/
theorem mem_missingFrom {es : List (Entry α)} :
    e ∈ c.missingFrom es ↔ e ∈ c.entries ∧ ∀ e' ∈ es, e'.key ≠ e.key := by
  simp [missingFrom]

end Cache
end RegistryOperator
