import RegistryOperator.Json.Decode

/-! Maps from text to text, such as labels. The entries are kept in increasing order of their keys,
so equal maps have equal entries and one written form. -/

namespace RegistryOperator

/-- A map from text to text. -/
structure StringMap where
  entries : List (String × String)
  sorted : entries.Pairwise (fun a b => a.1 < b.1)
deriving DecidableEq

namespace StringMap

/-- Puts `value` at `key` into entries in increasing order. -/
def insertEntry (key value : String) : List (String × String) → List (String × String)
  | [] => [(key, value)]
  | (k, v) :: rest =>
    if key < k then (key, value) :: (k, v) :: rest
    else if key = k then (key, value) :: rest
    else (k, v) :: insertEntry key value rest

theorem mem_insertEntry {key value : String} {entries : List (String × String)}
    {e : String × String} (h : e ∈ insertEntry key value entries) :
    e = (key, value) ∨ e ∈ entries := by
  induction entries with
  | nil => simpa [insertEntry] using h
  | cons head rest ih => grind [insertEntry]

theorem insertEntry_sorted (key value : String) {entries : List (String × String)}
    (h : entries.Pairwise (fun a b => a.1 < b.1)) :
    (insertEntry key value entries).Pairwise (fun a b => a.1 < b.1) := by
  induction entries with
  | nil => simp [insertEntry]
  | cons head rest ih =>
    obtain ⟨k, v⟩ := head
    obtain ⟨hk, hrest⟩ := List.pairwise_cons.1 h
    simp only [insertEntry]
    split
    · rename_i hlt
      refine List.pairwise_cons.2 ⟨fun e he => ?_, h⟩
      rcases List.mem_cons.1 he with rfl | he
      · exact hlt
      · exact String.lt_trans hlt (hk e he)
    · split
      · rename_i heq
        subst heq
        exact List.pairwise_cons.2 ⟨hk, hrest⟩
      · rename_i hge hne
        refine List.pairwise_cons.2 ⟨fun e he => ?_, ih hrest⟩
        rcases mem_insertEntry he with rfl | he
        · exact Std.lt_of_le_of_ne (String.not_lt.1 hge) (Ne.symm hne)
        · exact hk e he

def empty : StringMap := ⟨[], .nil⟩

def insert (m : StringMap) (key value : String) : StringMap :=
  ⟨insertEntry key value m.entries, insertEntry_sorted key value m.sorted⟩

/-- The map of a list of entries, later ones winning. -/
def ofList (entries : List (String × String)) : StringMap :=
  entries.foldl (fun m (key, value) => m.insert key value) empty

def toJson (m : StringMap) : Json := .obj (m.entries.map fun (key, value) => (key, .str value))

def decode : Decoder StringMap := Decode.via (Decode.dictionary Decode.string) (some ∘ ofList)

end StringMap
end RegistryOperator
