import Mathlib.Tactic.SplitIfs
import RegistryOperator.Cache.Change

/-! What is found in a cache, and where it comes from, after each event of a watch. Objects of a kind
either all have a namespace or all have none, and then looking up a key finds what is at that key. -/

namespace RegistryOperator

theorem Entry.metadata_name {α : Type} [Resource α] (e : Entry α) :
    e.metadata.name = some e.key.name := by
  obtain ⟨name, hname, hkey⟩ := Option.map_eq_some_iff.mp e.named
  rw [← hkey]
  exact hname

theorem Entry.metadata_shownName {α : Type} [Resource α] (e : Entry α) :
    e.metadata.shownName = e.key.name := by
  rw [Metadata.shownName, e.metadata_name, Option.some_or, Option.getD_some]

theorem Entry.metadata_ns {α : Type} [Resource α] (e : Entry α) : e.metadata.ns = e.key.ns := by
  obtain ⟨name, _, hkey⟩ := Option.map_eq_some_iff.mp e.named
  rw [← hkey]
  rfl

def WatchEvent.objects {α : Type} : WatchEvent α → List α
  | .applied x => [x]
  | .deleted x => [x]
  | .restarted xs => xs

namespace Cache

variable {α : Type} [Resource α] {c : Cache α} {key : ObjectKey} {e : Entry α}

theorem get?_key (hget : c.get? key = some e) : e.key = key := by
  simpa using List.find?_some hget

theorem get?_mem (hget : c.get? key = some e) : e ∈ c.entries := List.mem_of_find?_eq_some hget

theorem find?_insertEntry (e : Entry α) (es : List (Entry α)) (key : ObjectKey) :
    (insertEntry e es).find? (·.key = key) =
      if e.key = key then some e else es.find? (·.key = key) := by
  induction es with
  | nil =>
      rw [insertEntry, List.find?_cons, List.find?_nil]
      split_ifs with hkey <;> simp [hkey]
  | cons other rest ih =>
      rw [insertEntry]
      split_ifs with hother hkey hkey
      · simp [hkey]
      · simp [hother, hkey]
      · rw [List.find?_cons, ih]
        simp [hkey, hkey ▸ hother]
      · rw [List.find?_cons, ih, List.find?_cons]
        simp [hkey]

theorem get?_insert (c : Cache α) (e : Entry α) (key : ObjectKey) :
    (c.insert e).get? key = if e.key = key then some e else c.get? key :=
  find?_insertEntry e c.entries key

theorem get?_erase (c : Cache α) (gone key : ObjectKey) :
    (c.erase gone).get? key = if gone = key then none else c.get? key := by
  rw [get?, erase, List.find?_filter]
  split_ifs with hkey
  · subst hkey
    simp
  · rw [get?]
    congr 1
    funext e
    by_cases he : e.key = key <;> simp [he, Ne.symm hkey]

theorem get?_foldl_insert (es : List (Entry α)) (c : Cache α) (key : ObjectKey) :
    (es.foldl insert c).get? key = (es.reverse.find? (·.key = key)).or (c.get? key) := by
  induction es generalizing c with
  | nil => simp
  | cons e es ih =>
      rw [List.foldl_cons, ih, get?_insert, List.reverse_cons, List.find?_append, Option.or_assoc]
      split_ifs with hkey <;> simp [hkey]

theorem get?_ofList (es : List (Entry α)) (key : ObjectKey) :
    (ofList es).get? key = es.reverse.find? (·.key = key) := by
  rw [ofList, get?_foldl_insert]
  simp [get?]

theorem mem_insertEntry {e e' : Entry α} {es : List (Entry α)} (hmem : e' ∈ insertEntry e es) :
    e' = e ∨ e' ∈ es := by
  induction es with
  | nil => simpa [insertEntry] using hmem
  | cons other rest ih =>
      rw [insertEntry] at hmem
      split_ifs at hmem
      · exact (List.mem_cons.mp hmem).imp_right (List.mem_cons_of_mem _)
      · rcases List.mem_cons.mp hmem with rfl | hrest
        · exact Or.inr List.mem_cons_self
        · exact (ih hrest).imp_right (List.mem_cons_of_mem _)

theorem mem_foldl_insert {e : Entry α} {es : List (Entry α)} {c : Cache α}
    (hmem : e ∈ (es.foldl insert c).entries) : e ∈ es ∨ e ∈ c.entries := by
  induction es generalizing c with
  | nil => exact Or.inr hmem
  | cons e' es ih =>
      rcases ih hmem with hrest | hold
      · exact Or.inl (List.mem_cons_of_mem _ hrest)
      · rcases mem_insertEntry hold with rfl | hc
        · exact Or.inl List.mem_cons_self
        · exact Or.inr hc

/-- What is in a cache after an event was in it before or came with the event. -/
theorem mem_apply {event : WatchEvent (Entry α)} (hmem : e ∈ (c.apply event).entries) :
    e ∈ event.objects ∨ e ∈ c.entries := by
  cases event with
  | applied e' => exact (mem_insertEntry hmem).imp_left List.mem_singleton.mpr
  | deleted e' => exact Or.inr (List.mem_filter.mp hmem).1
  | restarted es => exact Or.inl ((mem_foldl_insert hmem).resolve_right List.not_mem_nil)

/-- Whether the objects of a kind have a namespace: all of them, or none. -/
def Uniform (namespaced : Bool) (es : List (Entry α)) : Prop :=
  ∀ e ∈ es, e.key.ns.isSome = namespaced

theorem Uniform.apply {namespaced : Bool} {event : WatchEvent (Entry α)}
    (hc : Uniform namespaced c.entries) (hevent : Uniform namespaced event.objects) :
    Uniform namespaced (c.apply event).entries :=
  fun e hmem => (mem_apply hmem).elim (hevent e) (hc e)

/-- Among objects with a namespace there is none without, so looking for one finds nothing else. -/
theorem Uniform.find?_eq {namespaced : Bool} (hc : Uniform namespaced c.entries)
    (hkey : key.ns.isSome = namespaced) : c.find? key = c.get? key := by
  rw [find?]
  cases hplain : c.get? key.withoutNamespace with
  | none => rw [Option.or_none]
  | some e =>
      have hns : key.ns.isSome = e.key.ns.isSome := by rw [hkey, hc e (get?_mem hplain)]
      rw [get?_key hplain] at hns
      have hself : key.withoutNamespace = key := by
        obtain ⟨name, ns⟩ := key
        cases ns with
        | none => rfl
        | some ns => simp [ObjectKey.withoutNamespace] at hns
      rw [← hplain, hself, Option.or_self]

end Cache
end RegistryOperator
