import RegistryOperator.Proofs.Reconcile.Footing

/-! A store that refuses writes which are not based on what it stores. Each accepted write gets a
version that nothing had before, so a version tells one thing that was ever stored from all others,
and who writes on the footing of a version replaces what was seen at that version. -/

namespace RegistryOperator

/-- What is stored, and all that ever was, the latest first. -/
structure Ledger where
  stored : Option ImageRegistry := none
  past : List ImageRegistry := []

namespace Ledger

/-- The stored registry, if a write of `r` is based on its version. -/
def current? (l : Ledger) (r : ImageRegistry) : Option ImageRegistry :=
  l.stored.filter (·.metadata.resourceVersion = r.metadata.resourceVersion)

/-- What an accepted write makes of the stored registry: metadata and spec are replaced, or only the
status. -/
def accept? (l : Ledger) : Write → ImageRegistry → Option ImageRegistry
  | .create, r => if l.stored.isNone then some r else none
  | .update, r => (l.current? r).map ({ · with metadata := r.metadata, spec := r.spec })
  | .updateStatus, r => (l.current? r).map ({ · with status := r.status })

/-- Whether nothing had this version yet. -/
def Fresh (l : Ledger) (version : String) : Prop :=
  ∀ r ∈ l.past, r.metadata.resourceVersion ≠ some version

def store (l : Ledger) (r : ImageRegistry) (version : String) : Ledger :=
  ⟨some (r.stamped version), r.stamped version :: l.past⟩

def clear (l : Ledger) : Ledger := { l with stored := none }

/-- What is stored has its place in the past, in which each version occurs once. -/
structure Sound (l : Ledger) : Prop where
  stored_mem : ∀ r, l.stored = some r → r ∈ l.past
  version_unique : ∀ r ∈ l.past, ∀ r' ∈ l.past,
    r.metadata.resourceVersion = r'.metadata.resourceVersion → r = r'

variable {l : Ledger} {r r' written : ImageRegistry} {version : String}

theorem Sound.empty : Sound {} where
  stored_mem _ h := by cases h
  version_unique _ h := absurd h List.not_mem_nil

theorem Sound.store (h : l.Sound) (hfresh : l.Fresh version) : (l.store r version).Sound where
  stored_mem r' hstored := by
    cases hstored
    exact List.mem_cons_self
  version_unique a ha b hb heq := by
    rcases List.mem_cons.mp ha with rfl | ha <;> rcases List.mem_cons.mp hb with rfl | hb
    · rfl
    · exact absurd heq.symm (hfresh b hb)
    · exact absurd heq (hfresh a ha)
    · exact h.version_unique a ha b hb heq

theorem Sound.clear (h : l.Sound) : l.clear.Sound where
  stored_mem _ hstored := by cases hstored
  version_unique := h.version_unique

theorem mem_store (hmem : r ∈ l.past) : r ∈ (l.store r' version).past := List.mem_cons_of_mem _ hmem

theorem current?_eq_some {stored : ImageRegistry} (hcurrent : l.current? r = some stored) :
    l.stored = some stored ∧ stored.metadata.resourceVersion = r.metadata.resourceVersion := by
  obtain ⟨hstored, hversion⟩ := Option.filter_eq_some_iff.mp hcurrent
  exact ⟨hstored, by simpa using hversion⟩

/-- What has the version that a write is based on is what the write replaces. -/
theorem Sound.current?_eq (h : l.Sound) {stored : ImageRegistry} (hmem : r' ∈ l.past)
    (hversion : r'.metadata.resourceVersion = r.metadata.resourceVersion)
    (hcurrent : l.current? r = some stored) : stored = r' := by
  obtain ⟨hstored, hsame⟩ := current?_eq_some hcurrent
  exact h.version_unique _ (h.stored_mem _ hstored) _ hmem (hsame.trans hversion.symm)

/-- The footings that a store gives: what a pass was shown had been stored, and what it wrote is
what others may have replaced since, but not under the same version. -/
def Grounds (l : Ledger) : Footing → Prop
  | .shown base => base ∈ l.past
  | .cleared base => base ∈ l.past
  | .renewed base version =>
    ∃ r ∈ l.past, r.metadata.resourceVersion = version ∧ r.foreign = base.foreign
  | _ => True

theorem Grounds.mono {l' : Ledger} {f : Footing} (h : l.Grounds f) (hgrow : ∀ r ∈ l.past, r ∈ l'.past) :
    l'.Grounds f := by
  cases f with
  | shown base => exact hgrow _ h
  | cleared base => exact hgrow _ h
  | renewed base version =>
      obtain ⟨r, hmem, hr⟩ := h
      exact ⟨r, hgrow r hmem, hr⟩
  | _ => trivial

/-- The answers that a pass may get while nothing is stored. The cache may show whatever was ever
stored, a write may be refused or may not arrive, and nothing is said about other questions. -/
def Answers (l : Ledger) : (q : PassQuestion) → q.Answer → Prop
  | .registry _, .ok (some r) => r ∈ l.past
  | .write _ _, .ok _ => False
  | _, _ => True

theorem Grounds.hear {f : Footing} (h : l.Grounds f) {q : PassQuestion} {answer : q.Answer}
    (hanswer : l.Answers q answer) : l.Grounds (f.next q answer) := by
  unfold Footing.next
  split <;> first | exact hanswer | exact h | trivial

/-- An accepted write of metadata and spec replaces those of the registry that the pass was shown.
-/
theorem Sound.update_replaces (h : l.Sound) {f : Footing} (hf : l.Grounds f)
    (hallows : f.Updates r) (haccept : l.accept? .update r = some written) :
    ∃ base, l.stored = some base ∧ f.base? = some base ∧
      written = { base with metadata := r.metadata, spec := r.spec } := by
  obtain ⟨stored, hcurrent, rfl⟩ := Option.map_eq_some_iff.mp haccept
  have hstored := (current?_eq_some hcurrent).1
  cases f with
  | shown base =>
      have heq : stored = base := h.current?_eq hf (by simp [hallows.2.1]) hcurrent
      exact ⟨stored, hstored, congrArg some heq.symm, rfl⟩
  | cleared base =>
      have heq : stored = base := h.current?_eq hf (by rw [hallows.2.1]; rfl) hcurrent
      exact ⟨stored, hstored, congrArg some heq.symm, rfl⟩
  | _ => exact hallows.elim

/-- Such a write leaves alone what belongs to others. -/
theorem Sound.update (h : l.Sound) {f : Footing} (hf : l.Grounds f) (hallows : f.Updates r)
    (haccept : l.accept? .update r = some written) :
    ∃ base, l.stored = some base ∧ f.base? = some base ∧ written.foreign = base.foreign := by
  obtain ⟨base, hstored, hbase, rfl⟩ := h.update_replaces hf hallows haccept
  refine ⟨base, hstored, hbase, ?_⟩
  cases f with
  | shown shown =>
      cases hbase
      simp only [ImageRegistry.foreign, hallows.2.1, hallows.2.2, Metadata.foreign_addFinalizer]
  | cleared shown =>
      cases hbase
      simp only [ImageRegistry.foreign, hallows.2.1, hallows.2.2, Metadata.foreign_removeFinalizer]
  | _ => exact hallows.elim

/-- An accepted write of the status replaces a status that the pass was shown. -/
theorem Sound.updateStatus (h : l.Sound) {f : Footing} (hf : l.Grounds f)
    (hallows : f.UpdatesStatus r) (haccept : l.accept? .updateStatus r = some written) :
    ∃ stored base, l.stored = some stored ∧ f.base? = some base ∧ stored.foreign = base.foreign ∧
      written = { stored with status := r.status } := by
  obtain ⟨stored, hcurrent, hwritten⟩ := Option.map_eq_some_iff.mp haccept
  have hstored := (current?_eq_some hcurrent).1
  cases f with
  | shown base =>
      have heq : stored = base := h.current?_eq hf (by rw [hallows.2.1]) hcurrent
      exact ⟨stored, base, hstored, rfl, by rw [heq], hwritten.symm⟩
  | renewed base version =>
      obtain ⟨r', hmem, hversion, hforeign⟩ := hf
      have heq : stored = r' := h.current?_eq hmem (hversion.trans hallows.2.1.symm) hcurrent
      exact ⟨stored, base, hstored, rfl, by rw [heq, hforeign], hwritten.symm⟩
  | _ => exact hallows.elim

/-- A pass that learns the version of its accepted write has a footing on what it wrote. -/
theorem Grounds.write (h : l.Sound) {f : Footing} (hf : l.Grounds f) {w : Write}
    (hallows : f.Allows (.write w r)) (haccept : l.accept? w r = some written)
    {answer : Except StoreError ImageRegistry}
    (hanswer : ∀ x, answer = .ok x → x = written.stamped version) :
    (l.store written version).Grounds (f.next (.write w r) answer) := by
  cases w with
  | create =>
      cases hallows
      cases answer <;> trivial
  | update =>
      obtain ⟨base, _, hbase, hforeign⟩ := h.update hf hallows haccept
      cases f with
      | shown shown =>
          cases hbase
          cases answer with
          | error e => trivial
          | ok x =>
              rw [hanswer x rfl]
              exact ⟨_, List.mem_cons_self, rfl, hforeign⟩
      | cleared shown => cases answer <;> trivial
      | _ => exact hallows.elim
  | updateStatus =>
      cases f with
      | shown base => cases answer <;> trivial
      | renewed base v => cases answer <;> trivial
      | _ => exact hallows.elim

end Ledger
end RegistryOperator
