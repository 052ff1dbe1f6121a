import RegistryOperator.Proofs.Json.Changes

/-! Where the changes of a document stand: each at the place of the part that it is about, or below
it. What the paths of all changes have in common follows from what is kept on the way from a
container to its children. -/

namespace RegistryOperator

namespace ChildKey

/-- Names satisfy `N`, and indices are free. -/
def Fits (N : String → Prop) : ChildKey → Prop
  | .index _ => True
  | .name s => N s

theorem stepAfter_eq {N : String → Prop} (k : ChildKey) (gone : ℕ) (h : k.Fits N) :
    ∃ other : ChildKey, other.Fits N ∧ k.stepAfter gone = other.step := by
  cases k with
  | index n => exact ⟨.index (n - gone), trivial, rfl⟩
  | name s => exact ⟨.name s, h, rfl⟩

theorem exists_toList_step (k : ChildKey) : ∃ cs, k.step.toList = '/' :: cs := by
  cases k with
  | index n => exact ⟨_, String.toList_append⟩
  | name s => exact ⟨_, String.toList_append⟩

end ChildKey

namespace Json

variable {N P : String → Prop} {path : String} {value new old : Json} {c : Change}
  {items : List Json} {ms : List (String × Json)} {before : List (ChildKey × Json)}

mutual

/-- All names of members satisfy `N`. -/
def Names (N : String → Prop) : Json → Prop
  | .arr items => NamesItems N items
  | .obj members => NamesMembers N members
  | _ => True

def NamesItems (N : String → Prop) : List Json → Prop
  | [] => True
  | item :: rest => item.Names N ∧ NamesItems N rest

def NamesMembers (N : String → Prop) : List (String × Json) → Prop
  | [] => True
  | (name, value) :: rest => N name ∧ value.Names N ∧ NamesMembers N rest

end

theorem NamesItems.names {item : Json} (h : NamesItems N items) (hmem : item ∈ items) :
    item.Names N := by
  induction items with
  | nil => cases hmem
  | cons first items ih =>
      rcases List.mem_cons.mp hmem with rfl | htail
      · exact h.1
      · exact ih h.2 htail

theorem NamesMembers.names {m : String × Json} (h : NamesMembers N ms) (hmem : m ∈ ms) :
    N m.1 ∧ m.2.Names N := by
  induction ms with
  | nil => cases hmem
  | cons first ms ih =>
      rcases List.mem_cons.mp hmem with rfl | htail
      · exact ⟨h.1, h.2.1⟩
      · exact ih h.2.2 htail

theorem Names.children {j : Json} {children : List (ChildKey × Json)} (h : j.Names N)
    (hchildren : j.children? = some children) :
    ∀ child ∈ children, child.1.Fits N ∧ child.2.Names N := by
  intro child hchild
  cases j with
  | arr items =>
      cases hchildren
      obtain ⟨i, item, hitem, rfl⟩ := mem_itemChildren.mp hchild
      exact ⟨trivial, NamesItems.names h (List.mem_of_getElem? hitem)⟩
  | obj members =>
      cases hchildren
      obtain ⟨m, hm, rfl⟩ := List.mem_map.mp hchild
      exact NamesMembers.names h hm
  | _ => cases hchildren

theorem mem_of_child? {k : ChildKey} (h : child? k before = some value) : (k, value) ∈ before := by
  induction before with
  | nil => cases h
  | cons child before ih =>
      rw [child?] at h
      split_ifs at h with hkey
      · cases h
        exact hkey ▸ List.mem_cons_self
      · exact List.mem_cons_of_mem _ (ih h)

theorem exists_of_mem_removals {gone : ℕ} (h : c ∈ removals path gone before) :
    ∃ child ∈ before, ∃ gone, c = .remove (path ++ child.1.stepAfter gone) := by
  induction before generalizing gone with
  | nil => cases h
  | cons child before ih =>
      rcases List.mem_cons.mp h with rfl | htail
      · exact ⟨child, List.mem_cons_self, gone, rfl⟩
      · obtain ⟨other, hother, hc⟩ := ih htail
        exact ⟨other, List.mem_cons_of_mem _ hother, hc⟩

/-- A change is one of the whole document, or one of the children of a container. -/
theorem exists_of_mem_changesTo (h : c ∈ changesTo new path old) : c.path = path ∨
    ∃ before after, old.children? = some before ∧ new.children? = some after ∧
      c ∈ containerChanges path before after (commonChanges path before after) := by
  have hreplace : c ∈ (if old.same new then [] else [Change.replace path new]) → c.path = path := by
    intro h
    split_ifs at h
    · cases h
    · cases List.mem_singleton.mp h
      rfl
  cases new with
  | arr items =>
      rw [changesTo] at h
      split_ifs at h
      · cases h
      · cases hbefore : old.children? with
        | none =>
            rw [hbefore] at h
            cases List.mem_singleton.mp h
            exact Or.inl rfl
        | some before =>
            rw [hbefore] at h
            dsimp only at h
            rw [itemChanges_eq] at h
            exact Or.inr ⟨before, _, rfl, rfl, h⟩
  | obj members =>
      rw [changesTo] at h
      split_ifs at h
      · cases h
      · cases hbefore : old.children? with
        | none =>
            rw [hbefore] at h
            cases List.mem_singleton.mp h
            exact Or.inl rfl
        | some before =>
            rw [hbefore] at h
            dsimp only at h
            rw [memberChanges_eq] at h
            exact Or.inr ⟨before, _, rfl, rfl, h⟩
  | null => exact Or.inl (hreplace (by simpa [changesTo] using h))
  | bool b => exact Or.inl (hreplace (by simpa [changesTo] using h))
  | num n => exact Or.inl (hreplace (by simpa [changesTo] using h))
  | str s => exact Or.inl (hreplace (by simpa [changesTo] using h))

/-- What `P` says of paths holds of the children of a place as well. -/
def Descends (N P : String → Prop) : Prop :=
  ∀ (path : String) (k : ChildKey), k.Fits N → P path → P (path ++ k.step)

/-- Changes that lead to the document have paths as `P` says, if their place has. -/
def KeepsPaths (N P : String → Prop) (new : Json) : Prop :=
  ∀ {old : Json} {path : String} {c : Change}, old.Names N → P path →
    c ∈ changesTo new path old → P c.path

theorem keepsPaths_of_children (hstep : Descends N P) (hnew : new.Names N)
    (hchildren : ∀ children, new.children? = some children →
      ∀ child ∈ children, child.2.KeepsPaths N P) : new.KeepsPaths N P := by
  intro old path c hold hpath hc
  rcases exists_of_mem_changesTo hc with heq | ⟨before, after, hbefore, hafter, hc⟩
  · rwa [heq]
  · rcases List.mem_append.mp (containerChanges_perm.mem_iff.mp hc) with hchild | hgone
    · obtain ⟨child, hmem, hc⟩ := List.mem_flatMap.mp hchild
      have hplace : P (path ++ child.1.step) :=
        hstep path child.1 (hnew.children hafter child hmem).1 hpath
      rw [childChanges] at hc
      cases hwas : child? child.1 before with
      | none =>
          rw [hwas] at hc
          cases List.mem_singleton.mp hc
          exact hplace
      | some was =>
          rw [hwas] at hc
          have hnames := (hold.children hbefore _ (mem_of_child? hwas)).2
          exact hchildren after hafter child hmem hnames hplace hc
    · obtain ⟨child, hmem, gone, rfl⟩ := exists_of_mem_removals hgone
      have hfits := (hold.children hbefore child (mem_goneChildren.mp hmem).1).1
      obtain ⟨other, hother, hsame⟩ := child.1.stepAfter_eq gone hfits
      rw [Change.path, hsame]
      exact hstep path other hother hpath

mutual

/-- What is kept on the way from a container to its children holds of the paths of all changes. -/
theorem keepsPaths (hstep : Descends N P) : ∀ {new : Json}, new.Names N → new.KeepsPaths N P
  | .arr items, h => keepsPaths_of_children hstep h fun children hchildren child hchild => by
      cases hchildren
      obtain ⟨i, item, hitem, rfl⟩ := mem_itemChildren.mp hchild
      exact keepsPaths_items hstep h item (List.mem_of_getElem? hitem)
  | .obj members, h => keepsPaths_of_children hstep h fun children hchildren child hchild => by
      cases hchildren
      obtain ⟨m, hm, rfl⟩ := List.mem_map.mp hchild
      exact keepsPaths_members hstep h m hm
  | .null, h => keepsPaths_of_children hstep h nofun
  | .bool _, h => keepsPaths_of_children hstep h nofun
  | .num _, h => keepsPaths_of_children hstep h nofun
  | .str _, h => keepsPaths_of_children hstep h nofun

theorem keepsPaths_items (hstep : Descends N P) : ∀ {items : List Json}, NamesItems N items →
    ∀ item ∈ items, item.KeepsPaths N P
  | _ :: _, h, _, .head _ => keepsPaths hstep h.1
  | _ :: _, h, item, .tail _ htail => keepsPaths_items hstep h.2 item htail

theorem keepsPaths_members (hstep : Descends N P) :
    ∀ {members : List (String × Json)}, NamesMembers N members → ∀ m ∈ members, m.2.KeepsPaths N P
  | (_, _) :: _, h, _, .head _ => keepsPaths hstep h.2.1
  | (_, _) :: _, h, m, .tail _ htail => keepsPaths_members hstep h.2.2 m htail

end

theorem Revision.path_of_mem_changes (hstep : Descends N P) {r : Revision}
    (hbefore : ∀ j ∈ r.before, j.Names N) (hafter : ∀ j ∈ r.after, j.Names N)
    (hpath : P (path ++ (ChildKey.name r.name).step)) (h : c ∈ r.changes path) : P c.path := by
  obtain ⟨name, was, value⟩ := r
  cases was with
  | none =>
      cases value with
      | none => cases h
      | some j =>
          cases List.mem_singleton.mp h
          exact hpath
  | some j =>
      cases value with
      | none =>
          cases List.mem_singleton.mp h
          exact hpath
      | some k => exact keepsPaths hstep (hafter k rfl) (hbefore j rfl) hpath h

/-! ### Places -/

/-- The path is that of the place, or of a part of what stands there. -/
def Within (place path : String) : Prop :=
  path = place ∨ place.toList ++ ['/'] <+: path.toList

instance (place path : String) : Decidable (Within place path) :=
  inferInstanceAs (Decidable (_ ∨ _))

variable {place other : String}

theorem Within.prefix (h : Within place path) : place.toList <+: path.toList := by
  rcases h with rfl | hbelow
  · exact List.prefix_refl _
  · exact (List.prefix_append _ _).trans hbelow

/-- A path leads to one place only of two that are not parts of each other. -/
theorem Within.apart (h : Within place path) (hplace : ¬ place.toList <+: other.toList)
    (hother : ¬ other.toList <+: place.toList) : ¬ Within other path := by
  intro hwithin
  rcases List.prefix_or_prefix_of_prefix h.prefix hwithin.prefix with hle | hle
  · exact hplace hle
  · exact hother hle

theorem descends_within (N : String → Prop) (place : String) : Descends N (Within place) := by
  rintro path k - hpath
  obtain ⟨cs, hcs⟩ := k.exists_toList_step
  right
  rw [String.toList_append, hcs]
  rcases hpath with rfl | hbelow
  · exact ⟨cs, by simp⟩
  · exact hbelow.trans (List.prefix_append _ _)

mutual

theorem names_any : ∀ j : Json, j.Names fun _ => True
  | .arr items => namesItems_any items
  | .obj members => namesMembers_any members
  | .null => trivial
  | .bool _ => trivial
  | .num _ => trivial
  | .str _ => trivial

theorem namesItems_any : ∀ items : List Json, NamesItems (fun _ => True) items
  | [] => trivial
  | item :: rest => ⟨names_any item, namesItems_any rest⟩

theorem namesMembers_any : ∀ members : List (String × Json), NamesMembers (fun _ => True) members
  | [] => trivial
  | (_, value) :: rest => ⟨trivial, names_any value, namesMembers_any rest⟩

end

/-- Changes of what stands at a place stand there or below it. -/
theorem within_of_mem_changesTo (h : c ∈ changesTo new path old) : Within path c.path :=
  keepsPaths (descends_within _ path) (names_any new) (names_any old) (Or.inl rfl) h

end Json
end RegistryOperator
