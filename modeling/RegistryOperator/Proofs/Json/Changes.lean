import Mathlib.Data.List.Forall2
import Mathlib.Data.List.Perm.Subperm
import Mathlib.Tactic.SplitIfs
import RegistryOperator.Json.Change
import RegistryOperator.Proofs.Json.Records

/-! Which changes lead from one document to another. Equal documents have none. The changes of a
record are, up to their order, those of its fields, and a list that only grew has its new items as
its changes. -/

namespace RegistryOperator

namespace Json

variable {key path : String} {value new old : Json} {ms all : List (String × Json)}

/-! ### Equal documents -/

theorem lookup_of_mem (hkeys : (ms.map Prod.fst).Nodup) (hmem : (key, value) ∈ ms) :
    lookup key ms = some value := by
  induction ms with
  | nil => cases hmem
  | cons m ms ih =>
      obtain ⟨hm, hrest⟩ := List.nodup_cons.mp hkeys
      rcases List.mem_cons.mp hmem with rfl | htail
      · exact if_pos rfl
      · have hne : m.1 ≠ key := fun heq => hm (List.mem_map.mpr ⟨_, htail, heq.symm⟩)
        exact (if_neg hne).trans (ih hrest htail)

theorem mem_keys_of_lookup (h : lookup key ms = some value) : key ∈ ms.map Prod.fst := by
  by_contra hmem
  rw [lookup_eq_none hmem] at h
  cases h

theorem Number.same_self (n : Number) : n.same n = true := by
  cases n <;> simp [Number.same]

mutual

/-- A document without repeated names is equal to itself. -/
theorem same_self : ∀ {j : Json}, j.Tidy → j.same j = true
  | .null, _ => rfl
  | .bool _, _ => by simp [same]
  | .num n, _ => by simp [same, Number.same_self]
  | .str _, _ => by simp [same]
  | .arr items, h => by
      rw [same]
      exact sameItems_self h
  | .obj members, h => by
      have hall : ∀ m ∈ members, lookup m.1 members = some m.2 := fun m hm =>
        lookup_of_mem h.1 hm
      simp [same, sameMembers_self h.2 hall]

theorem sameItems_self : ∀ {items : List Json}, TidyItems items → sameItems items items = true
  | [], _ => rfl
  | item :: rest, h => by simp [sameItems, same_self h.1, sameItems_self h.2]

theorem sameMembers_self : ∀ {members all : List (String × Json)}, TidyMembers members →
    (∀ m ∈ members, lookup m.1 all = some m.2) → sameMembers members all = true
  | [], _, _, _ => rfl
  | (k, v) :: rest, all, h, hall => by
      have hv : lookup k all = some v := hall (k, v) List.mem_cons_self
      have hrest : sameMembers rest all = true :=
        sameMembers_self h.2 fun m hm => hall m (List.mem_cons_of_mem _ hm)
      simp [sameMembers, hv, same_self h.1, hrest]

end

theorem lookup_of_sameMembers (h : sameMembers ms all = true) (hmem : (key, value) ∈ ms) :
    ∃ v, lookup key all = some v ∧ value.same v = true := by
  induction ms with
  | nil => cases hmem
  | cons m ms ih =>
      obtain ⟨k, w⟩ := m
      rw [sameMembers, Bool.and_eq_true] at h
      rcases List.mem_cons.mp hmem with heq | htail
      · cases heq
        cases hlookup : lookup key all with
        | none => simp [hlookup] at h
        | some v => exact ⟨v, rfl, by simpa [hlookup] using h.1⟩
      · exact ih h.2 htail

theorem forall₂_of_sameItems {olds items : List Json} (h : sameItems olds items = true) :
    List.Forall₂ (fun was item => was.same item = true) olds items := by
  induction olds generalizing items with
  | nil =>
      cases items with
      | nil => exact .nil
      | cons => cases h
  | cons was olds ih =>
      cases items with
      | nil => cases h
      | cons item items =>
          rw [sameItems, Bool.and_eq_true] at h
          exact .cons h.1 (ih h.2)

theorem changesTo_of_same (h : old.same new = true) : changesTo new path old = [] := by
  cases new <;> simp [changesTo, h]

theorem changesTo_self (h : value.Tidy) : changesTo value path value = [] :=
  changesTo_of_same (same_self h)

theorem changesTo_str {s t : String} (h : changesTo (.str t) path (.str s) = []) : s = t := by
  simpa [changesTo, same] using h

theorem changesTo_int {m n : Int} (h : changesTo (.int n) path (.int m) = []) : m = n := by
  simpa [changesTo, same, int, Number.same] using h

/-! ### Containers -/

/-- The members of an object with their keys. -/
def memberChildren (ms : List (String × Json)) : List (ChildKey × Json) :=
  ms.map fun m => (.name m.1, m.2)

theorem memberChildren_cons (m : String × Json) (ms : List (String × Json)) :
    memberChildren (m :: ms) = (.name m.1, m.2) :: memberChildren ms := rfl

/-- The changes of a child that there is afterwards. -/
def childChanges (path : String) (before : List (ChildKey × Json)) (child : ChildKey × Json) :
    List Change :=
  match child? child.1 before with
  | some was => changesTo child.2 (path ++ child.1.step) was
  | none => [.add (path ++ child.1.step) child.2]

/-- The children that there are before and not afterwards, in the order of their keys. -/
def goneChildren (before after : List (ChildKey × Json)) : List (ChildKey × Json) :=
  (inOrder before).filter fun child => (child? child.1 after).isNone

/-- The changes of the children that there are before and afterwards. -/
def commonChanges (path : String) (before after : List (ChildKey × Json)) :
    List (ChildKey × List Change) :=
  after.filterMap fun child =>
    (child? child.1 before).map fun was => (child.1, changesTo child.2 (path ++ child.1.step) was)

variable {before after : List (ChildKey × Json)} {olds news : List (String × Json)}
  {items oldItems more : List Json} {child : ChildKey × Json}

theorem itemChanges_eq (n : ℕ) :
    itemChanges items n path before = commonChanges path before (itemChildren n items) := by
  induction items generalizing n with
  | nil => rfl
  | cons item items ih =>
      rw [itemChanges, itemChildren, commonChanges, List.filterMap_cons]
      cases child? (.index n) before with
      | none => exact ih (n + 1)
      | some was => exact congrArg _ (ih (n + 1))

theorem memberChanges_eq :
    memberChanges ms path before = commonChanges path before (memberChildren ms) := by
  induction ms with
  | nil => rfl
  | cons m ms ih =>
      rw [memberChanges, memberChildren_cons, commonChanges, List.filterMap_cons]
      dsimp only
      cases child? (.name m.1) before with
      | none => exact ih
      | some was => exact congrArg _ ih

theorem childChanges_perm (after : List (ChildKey × Json)) :
    ((commonChanges path before after).flatMap (·.2) ++
      additions path (after.filter fun child => (child? child.1 before).isNone)).Perm
        (after.flatMap (childChanges path before)) := by
  induction after with
  | nil => exact .refl _
  | cons child after ih =>
      rw [commonChanges, List.filterMap_cons, List.filter_cons, List.flatMap_cons, childChanges]
      cases child? child.1 before with
      | none =>
          rw [if_pos (by rfl)]
          exact List.perm_middle.trans (ih.cons _)
      | some was =>
          rw [if_neg (by simp), Option.map_some]
          dsimp only
          rw [List.flatMap_cons, List.append_assoc]
          exact ih.append_left _

/-- The changes of a container are, in some order, those of the children that there are afterwards,
and the removals of the others. -/
theorem containerChanges_perm :
    (containerChanges path before after (commonChanges path before after)).Perm
      (after.flatMap (childChanges path before) ++
        removals path 0 (goneChildren before after)) := by
  have hcommon : (changesInOrder (commonChanges path before after)).Perm
      ((commonChanges path before after).flatMap (·.2)) :=
    (List.mergeSort_perm ..).flatMap_right _
  have hadditions : ((inOrder after).filter fun child => (child? child.1 before).isNone).Perm
      (after.filter fun child => (child? child.1 before).isNone) :=
    (List.mergeSort_perm ..).filter _
  exact ((hcommon.append (hadditions.map _)).trans (childChanges_perm after)).append_right _

theorem child?_memberChildren (name : String) (ms : List (String × Json)) :
    child? (.name name) (memberChildren ms) = lookup name ms := by
  induction ms with
  | nil => rfl
  | cons m ms ih =>
      rw [memberChildren_cons, child?, lookup]
      simp only [ChildKey.name.injEq]
      exact if_congr Iff.rfl rfl ih

theorem child?_itemChildren (n i : ℕ) (items : List Json) :
    child? (.index (n + i)) (itemChildren n items) = items[i]? := by
  induction items generalizing n i with
  | nil => rfl
  | cons item items ih =>
      rw [itemChildren, child?]
      simp only [ChildKey.index.injEq]
      cases i with
      | zero => rw [if_pos (Nat.add_zero n).symm, List.getElem?_cons_zero]
      | succ i =>
          rw [if_neg (by omega), List.getElem?_cons_succ, ← ih (n + 1) i]
          congr 2
          omega

theorem itemChildren_eq (n : ℕ) :
    itemChildren n items = (items.zipIdx n).map fun x => (.index x.2, x.1) := by
  induction items generalizing n with
  | nil => rfl
  | cons item items ih => rw [itemChildren, ih, List.zipIdx_cons, List.map_cons]

theorem mem_itemChildren {n : ℕ} : child ∈ itemChildren n items ↔
    ∃ i item, items[i]? = some item ∧ child = (.index (n + i), item) := by
  rw [itemChildren_eq, List.mem_map]
  constructor
  · rintro ⟨x, hx, rfl⟩
    obtain ⟨hle, hitem⟩ := List.mem_zipIdx_iff_le_and_getElem?_sub.mp hx
    exact ⟨x.2 - n, x.1, hitem, by rw [Nat.add_sub_cancel' hle]⟩
  · rintro ⟨i, item, hitem, rfl⟩
    refine ⟨(item, n + i), List.mem_zipIdx_iff_le_and_getElem?_sub.mpr ⟨Nat.le_add_right n i, ?_⟩, rfl⟩
    rwa [Nat.add_sub_cancel_left]

theorem itemChildren_append (n : ℕ) (items more : List Json) :
    itemChildren n (items ++ more) =
      itemChildren n items ++ itemChildren (n + items.length) more := by
  rw [itemChildren_eq, itemChildren_eq, itemChildren_eq, List.zipIdx_append, List.map_append]

theorem removals_eq_nil_iff {gone : ℕ} {children : List (ChildKey × Json)} :
    removals path gone children = [] ↔ children = [] := by
  cases children <;> simp [removals]

theorem mem_goneChildren : child ∈ goneChildren before after ↔
    child ∈ before ∧ child? child.1 after = none := by
  rw [goneChildren, List.mem_filter, Option.isNone_iff_eq_none, inOrder, List.mem_mergeSort]

theorem containerChanges_eq_nil_iff :
    containerChanges path before after (commonChanges path before after) = [] ↔
      (∀ child ∈ after, childChanges path before child = []) ∧
        ∀ child ∈ before, child? child.1 after ≠ none := by
  have hnil : ∀ {l l' : List Change}, l.Perm l' → (l = [] ↔ l' = []) := fun h => by
    rw [← List.length_eq_zero_iff, ← List.length_eq_zero_iff, h.length_eq]
  rw [hnil containerChanges_perm, List.append_eq_nil_iff, List.flatMap_eq_nil_iff,
    removals_eq_nil_iff, List.eq_nil_iff_forall_not_mem]
  simp only [mem_goneChildren, not_and]

theorem childChanges_of_same {was : Json} (hwas : child? child.1 before = some was)
    (hsame : was.same child.2 = true) : childChanges path before child = [] := by
  rw [childChanges, hwas]
  exact changesTo_of_same hsame

/-- Of equal arrays there are no changes, and comparing the items finds none either. -/
theorem changesTo_arr : changesTo (.arr items) path (.arr oldItems) =
    containerChanges path (itemChildren 0 oldItems) (itemChildren 0 items)
      (commonChanges path (itemChildren 0 oldItems) (itemChildren 0 items)) := by
  rw [changesTo]
  split_ifs with hsame
  · have hitems := forall₂_of_sameItems (by simpa [same] using hsame)
    refine (containerChanges_eq_nil_iff.mpr ⟨fun child hchild => ?_, fun child hchild => ?_⟩).symm
    · obtain ⟨i, item, hitem, rfl⟩ := mem_itemChildren.mp hchild
      obtain ⟨hi, rfl⟩ := List.getElem?_eq_some_iff.mp hitem
      have hold : i < oldItems.length := hitems.length_eq ▸ hi
      refine childChanges_of_same ?_ (hitems.get hold hi)
      exact (child?_itemChildren 0 i oldItems).trans (List.getElem?_eq_getElem hold)
    · obtain ⟨i, item, hitem, rfl⟩ := mem_itemChildren.mp hchild
      obtain ⟨hi, -⟩ := List.getElem?_eq_some_iff.mp hitem
      rw [child?_itemChildren, ne_eq, List.getElem?_eq_none_iff]
      have hlength := hitems.length_eq
      omega
  · rw [children?]
    dsimp only
    rw [itemChanges_eq]

/-- An object with as many members as one whose members it all has, has no others. -/
theorem mem_keys_of_sameMembers (holds : (olds.map Prod.fst).Nodup) (hlength : olds.length = news.length)
    (hsame : sameMembers olds news = true) (hkey : key ∈ news.map Prod.fst) :
    key ∈ olds.map Prod.fst := by
  have hsubset : olds.map Prod.fst ⊆ news.map Prod.fst := by
    intro k hk
    obtain ⟨m, hm, rfl⟩ := List.mem_map.mp hk
    obtain ⟨v, hv, -⟩ := lookup_of_sameMembers hsame hm
    exact mem_keys_of_lookup hv
  have hperm : (olds.map Prod.fst).Perm (news.map Prod.fst) :=
    (holds.subperm hsubset).perm_of_length_le (by simp [hlength])
  exact hperm.mem_iff.mpr hkey

theorem changesTo_obj (hnews : (news.map Prod.fst).Nodup) (holds : (olds.map Prod.fst).Nodup) :
    changesTo (.obj news) path (.obj olds) =
      containerChanges path (memberChildren olds) (memberChildren news)
        (commonChanges path (memberChildren olds) (memberChildren news)) := by
  rw [changesTo]
  split_ifs with hsame
  · obtain ⟨hlength, hmembers⟩ : olds.length = news.length ∧ sameMembers olds news = true := by
      simpa [same] using hsame
    refine (containerChanges_eq_nil_iff.mpr ⟨fun child hchild => ?_, fun child hchild => ?_⟩).symm
    · obtain ⟨⟨k, v⟩, hm, rfl⟩ := List.mem_map.mp hchild
      have hkey := mem_keys_of_sameMembers holds hlength hmembers
        (List.mem_map.mpr ⟨(k, v), hm, rfl⟩)
      obtain ⟨⟨k, was⟩, hwas, rfl⟩ := List.mem_map.mp hkey
      obtain ⟨w, hw, hsame⟩ := lookup_of_sameMembers hmembers hwas
      have hvw : some v = some w := (lookup_of_mem hnews hm).symm.trans hw
      refine childChanges_of_same ?_ (Option.some.inj hvw ▸ hsame)
      exact (child?_memberChildren k olds).trans (lookup_of_mem holds hwas)
    · obtain ⟨⟨k, was⟩, hm, rfl⟩ := List.mem_map.mp hchild
      obtain ⟨v, hv, -⟩ := lookup_of_sameMembers hmembers hm
      rw [child?_memberChildren, hv]
      exact Option.some_ne_none v
  · rw [children?]
    dsimp only
    rw [memberChanges_eq]
    rfl

/-- Removing members does not move others. -/
theorem removals_of_names {gone : ℕ} {children : List (ChildKey × Json)}
    (h : ∀ child ∈ children, ∃ name, child.1 = .name name) :
    removals path gone children = children.map fun child => .remove (path ++ child.1.step) := by
  induction children with
  | nil => rfl
  | cons child children ih =>
      obtain ⟨k, v⟩ := child
      obtain ⟨name, rfl⟩ := h _ List.mem_cons_self
      rw [removals, List.map_cons]
      exact congrArg _ (ih fun child hchild => h child (List.mem_cons_of_mem _ hchild))

/-- The changes of an object are, in some order, those of the members that there are afterwards, and
the removals of the others. -/
theorem changesTo_obj_perm (hnews : (news.map Prod.fst).Nodup) (holds : (olds.map Prod.fst).Nodup) :
    (changesTo (.obj news) path (.obj olds)).Perm
      (news.flatMap (fun m => childChanges path (memberChildren olds) (.name m.1, m.2)) ++
        olds.flatMap fun m => if (lookup m.1 news).isNone then
          [.remove (path ++ (ChildKey.name m.1).step)] else []) := by
  have hnames : ∀ child ∈ goneChildren (memberChildren olds) (memberChildren news),
      ∃ name, child.1 = .name name := by
    intro child hchild
    obtain ⟨m, -, rfl⟩ := List.mem_map.mp (mem_goneChildren.mp hchild).1
    exact ⟨m.1, rfl⟩
  have hgone : (removals path 0 (goneChildren (memberChildren olds) (memberChildren news))).Perm
      (olds.flatMap fun m => if (lookup m.1 news).isNone then
        [.remove (path ++ (ChildKey.name m.1).step)] else []) := by
    rw [removals_of_names hnames]
    refine (((List.mergeSort_perm ..).filter _).map _).trans (.of_eq ?_)
    clear hnames holds
    induction olds with
    | nil => rfl
    | cons m olds ih =>
        rw [memberChildren_cons, List.filter_cons, List.flatMap_cons, ← ih, child?_memberChildren]
        split_ifs <;> rfl
  rw [changesTo_obj hnews holds]
  refine containerChanges_perm.trans ((hgone.append_left _).trans (.of_eq ?_))
  exact congrArg (· ++ _) (List.flatMap_map ..)

/-! ### Records -/

/-- A field of a record before and afterwards. -/
structure Revision where
  name : String
  before : Option Json
  after : Option Json

/-- The changes of a field. -/
def Revision.changes (path : String) (r : Revision) : List Change :=
  match r.before, r.after with
  | none, none => []
  | none, some value => [.add (path ++ (ChildKey.name r.name).step) value]
  | some _, none => [.remove (path ++ (ChildKey.name r.name).step)]
  | some was, some value => changesTo value (path ++ (ChildKey.name r.name).step) was

theorem flatMap_present {β : Type} (rs : List Revision) (side : Revision → Option Json)
    (f : String × Json → List β) :
    (present (rs.map fun r => (r.name, side r))).flatMap f =
      rs.flatMap fun r => (side r).elim [] fun value => f (r.name, value) := by
  induction rs with
  | nil => rfl
  | cons r rs ih =>
      rw [List.map_cons, present, List.filterMap_cons, List.flatMap_cons, ← ih]
      cases side r <;> rfl

/-- **The changes of a record are those of its fields**, in some order. -/
theorem changesTo_record (rs : List Revision) (hnames : (rs.map (·.name)).Nodup) (path : String) :
    (changesTo (.record (rs.map fun r => (r.name, r.after))) path
      (.record (rs.map fun r => (r.name, r.before)))).Perm (rs.flatMap (·.changes path)) := by
  have hnodup (side : Revision → Option Json) :
      ((rs.map fun r => (r.name, side r)).map Prod.fst).Nodup := by
    simpa [Function.comp_def] using hnames
  have hlookup (side : Revision → Option Json) (r : Revision) (hr : r ∈ rs) :
      lookup r.name (present (rs.map fun r => (r.name, side r))) = side r :=
    lookup_present (hnodup side) (List.mem_map.mpr ⟨r, hr, rfl⟩)
  refine (changesTo_obj_perm ((hnodup _).sublist keys_present)
    ((hnodup _).sublist keys_present)).trans ?_
  rw [flatMap_present, flatMap_present]
  refine (List.flatMap_append_perm rs _ _).trans (.of_eq (List.flatMap_congr fun r hr => ?_))
  have hbefore := hlookup Revision.before r hr
  have hafter := hlookup Revision.after r hr
  cases hwas : r.before <;> cases hvalue : r.after <;>
    simp_all [Revision.changes, childChanges, child?_memberChildren]

/-- If there are no changes of a record, there are none of its fields. -/
theorem changes_eq_nil_of_record (rs : List Revision) (hnames : (rs.map (·.name)).Nodup)
    (h : changesTo (.record (rs.map fun r => (r.name, r.after))) path
      (.record (rs.map fun r => (r.name, r.before))) = []) : ∀ r ∈ rs, r.changes path = [] := by
  rw [← List.flatMap_eq_nil_iff]
  exact List.nil_perm.mp (h ▸ changesTo_record rs hnames path)

section Fields

variable {fields : List (String × Option Json)} {name : String} {was after : Option Json}

theorem tidy_of_record (hnames : (fields.map Prod.fst).Nodup) (h : (record fields).Tidy) :
    ∀ field ∈ fields, ∀ j ∈ field.2, j.Tidy := by
  rintro ⟨k, v⟩ hfield j rfl
  exact h.2.lookup (lookup_present hnames hfield)

theorem Revision.changes_same (h : ∀ j ∈ after, j.Tidy) :
    (Revision.mk name after after).changes path = [] := by
  cases after with
  | none => rfl
  | some j => exact changesTo_self (h j rfl)

/-- The changes of a record of which one field was set are those of this field. -/
theorem changesTo_set (hnames : (fields.map Prod.fst).Nodup) (htidy : (record fields).Tidy)
    {i : ℕ} (hi : fields[i]? = some (name, was)) :
    (changesTo (record (fields.set i (name, after))) path (record fields)).Perm
      ((Revision.mk name was after).changes path) := by
  obtain ⟨hlt, hfield⟩ := List.getElem?_eq_some_iff.mp hi
  have hsplit : fields = fields.take i ++ (name, was) :: fields.drop (i + 1) := by
    rw [← hfield, List.getElem_cons_drop hlt, List.take_append_drop]
  let keep (field : String × Option Json) : Revision := ⟨field.1, field.2, field.2⟩
  let rs : List Revision :=
    (fields.take i).map keep ++ ⟨name, was, after⟩ :: (fields.drop (i + 1)).map keep
  have hbefore : fields = rs.map fun r => (r.name, r.before) := by
    simpa [rs, keep, Function.comp_def] using hsplit
  have hafter : fields.set i (name, after) = rs.map fun r => (r.name, r.after) := by
    rw [List.set_eq_take_append_cons_drop, if_pos hlt]
    simp [rs, keep, Function.comp_def]
  have hkept : ∀ part ⊆ fields, (part.map keep).flatMap (·.changes path) = [] := by
    intro part hpart
    rw [List.flatMap_map, List.flatMap_eq_nil_iff]
    exact fun field hmem => Revision.changes_same (tidy_of_record hnames htidy field (hpart hmem))
  have hrows : (rs.map (·.name)).Nodup := by
    rw [hbefore] at hnames
    simpa [Function.comp_def] using hnames
  have hchanges := changesTo_record rs hrows path
  rw [← hbefore, ← hafter] at hchanges
  refine hchanges.trans (.of_eq ?_)
  rw [List.flatMap_append, List.flatMap_cons, hkept _ (List.take_subset ..),
    hkept _ (List.drop_subset ..), List.nil_append, List.append_nil]

end Fields

/-! ### Lists -/

theorem TidyItems.tidy {item : Json} (h : TidyItems items) (hmem : item ∈ items) : item.Tidy := by
  induction items with
  | nil => cases hmem
  | cons first items ih =>
      rcases List.mem_cons.mp hmem with rfl | htail
      · exact h.1
      · exact ih h.2 htail

/-- **The changes of a list that only grew are its new items.** -/
theorem changesTo_append (hitems : TidyItems items) :
    (changesTo (.arr (items ++ more)) path (.arr items)).Perm
      (additions path (itemChildren items.length more)) := by
  have hold : ∀ child ∈ itemChildren 0 items, childChanges path (itemChildren 0 items) child = [] := by
    intro child hchild
    obtain ⟨i, item, hitem, rfl⟩ := mem_itemChildren.mp hchild
    have htidy : item.Tidy := hitems.tidy (List.mem_of_getElem? hitem)
    exact childChanges_of_same ((child?_itemChildren 0 i items).trans hitem) (same_self htidy)
  have hnew : ∀ child ∈ itemChildren (0 + items.length) more,
      childChanges path (itemChildren 0 items) child =
        [.add (path ++ child.1.step) child.2] := by
    intro child hchild
    obtain ⟨i, item, -, rfl⟩ := mem_itemChildren.mp hchild
    rw [childChanges, Nat.add_assoc, child?_itemChildren,
      List.getElem?_eq_none (Nat.le_add_right _ _)]
  have hgone : goneChildren (itemChildren 0 items) (itemChildren 0 (items ++ more)) = [] := by
    refine List.eq_nil_iff_forall_not_mem.mpr fun child hchild => ?_
    obtain ⟨hbefore, hafter⟩ := mem_goneChildren.mp hchild
    obtain ⟨i, item, hitem, rfl⟩ := mem_itemChildren.mp hbefore
    rw [child?_itemChildren, List.getElem?_append_left (List.getElem?_eq_some_iff.mp hitem).1,
      hitem] at hafter
    cases hafter
  rw [changesTo_arr]
  refine containerChanges_perm.trans (.of_eq ?_)
  rw [hgone, removals, List.append_nil, itemChildren_append, List.flatMap_append,
    List.flatMap_eq_nil_iff.mpr hold, List.nil_append, List.flatMap_congr hnew, ← List.map_eq_flatMap,
    Nat.zero_add]
  rfl

/-- If there are no changes of a list, there are as many items as before, and none has changed. -/
theorem forall₂_of_changesTo_arr (h : changesTo (.arr items) path (.arr oldItems) = []) :
    List.Forall₂ (fun was item => ∃ path, changesTo item path was = []) oldItems items := by
  rw [changesTo_arr, containerChanges_eq_nil_iff] at h
  obtain ⟨hitems, hgone⟩ := h
  have hlength : oldItems.length ≤ items.length := by
    by_contra hlt
    have hi : items.length < oldItems.length := Nat.lt_of_not_le hlt
    have hmem := mem_itemChildren (n := 0).mpr ⟨_, _, List.getElem?_eq_getElem hi, rfl⟩
    refine hgone _ hmem ?_
    rw [child?_itemChildren, List.getElem?_eq_none (Nat.le_refl _)]
  have hsame : ∀ (i : ℕ) (hi : i < items.length), ∃ hold : i < oldItems.length,
      ∃ path, changesTo items[i] path oldItems[i] = [] := by
    intro i hi
    have hmem := mem_itemChildren (n := 0).mpr ⟨_, _, List.getElem?_eq_getElem hi, rfl⟩
    have hchild := hitems _ hmem
    rw [childChanges, child?_itemChildren] at hchild
    cases hold : oldItems[i]? with
    | none => simp [hold] at hchild
    | some was =>
        obtain ⟨hlt, rfl⟩ := List.getElem?_eq_some_iff.mp hold
        exact ⟨hlt, _, by simpa [hold] using hchild⟩
  rw [List.forall₂_iff_get]
  refine ⟨Nat.le_antisymm hlength ?_, fun i _ hi => (hsame i hi).2⟩
  by_contra hlt
  obtain ⟨hold, -⟩ := hsame oldItems.length (Nat.lt_of_not_le hlt)
  exact Nat.lt_irrefl _ hold

end Json
end RegistryOperator
