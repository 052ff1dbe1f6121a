import Mathlib.Logic.Function.Basic
import Mathlib.Logic.Relation
import RegistryOperator.Proofs.Cluster.Ledger

/-! A registry that several passes write at once, and others besides them, in whatever order. Others
write as they like and when they like, also between two writes of one pass, and the caches lag behind
as far as they like. What a pass writes still takes nothing back. -/

namespace RegistryOperator

/-- A pass under way. -/
abbrev PassSession : Type := Session surroundings (Except PassError Unit)

namespace PassSession

def footing (x : PassSession) : Footing := Footing.protocol.after .unread x.heard

/-- What a pass knows of the registry is what the cache answered to its first question. -/
theorem getLast?_of_base? {heard : List (Exchange surroundings)} {base : ImageRegistry}
    (hbase : (Footing.protocol.after .unread heard).base? = some base) :
    ∃ name, heard.getLast? = some ⟨.registry name, .ok (some base)⟩ := by
  induction heard with
  | nil => cases hbase
  | cons e heard ih =>
      obtain ⟨q, answer⟩ := e
      cases heard with
      | nil =>
          obtain ⟨name, heq⟩ := Footing.registry_of_base? hbase
          exact ⟨name, congrArg some heq⟩
      | cons e' heard =>
          rw [List.getLast?_cons_cons]
          exact ih (Footing.base?_of_next (Footing.next_ne_unread _ _ _) hbase)

/-- The pass keeps to its protocol, on a footing that the store gives. -/
structure OnGround (l : Ledger) (x : PassSession) : Prop where
  treads : Pass.Treads x.footing x.rest fun _ _ => True
  grounded : l.Grounds x.footing

theorem OnGround.mono {l l' : Ledger} {x : PassSession} (h : x.OnGround l)
    (hgrow : ∀ r ∈ l.past, r ∈ l'.past) : x.OnGround l' :=
  ⟨h.treads, h.grounded.mono hgrow⟩

end PassSession

/-- A store, and the passes that are under way. -/
structure SharedRegistry (ι : Type) where
  ledger : Ledger := {}
  passes : ι → Option PassSession := fun _ => none

namespace SharedRegistry

variable {ι : Type}

/-- Versions are unique, and the store gives every pass a footing. -/
structure Sound (s : SharedRegistry ι) : Prop where
  ledger : s.ledger.Sound
  passes : ∀ w x, s.passes w = some x → x.OnGround s.ledger

theorem Sound.start : Sound ({} : SharedRegistry ι) :=
  ⟨.empty, fun _ _ hpass => by cases hpass⟩

variable [DecidableEq ι]

def advance (s : SharedRegistry ι) (ledger : Ledger) (w : ι) (x : Option PassSession) :
    SharedRegistry ι :=
  ⟨ledger, Function.update s.passes w x⟩

theorem passes_advance_self (s : SharedRegistry ι) (ledger : Ledger) (w : ι)
    (z : Option PassSession) :
    (s.advance ledger w z).passes w = z :=
  Function.update_self ..

theorem passes_advance {s : SharedRegistry ι} {ledger : Ledger} {w w' : ι} {z : Option PassSession}
    {y : PassSession}
    (hpass : (s.advance ledger w z).passes w' = some y) :
    z = some y ∨ s.passes w' = some y := by
  by_cases hw : w' = w
  · subst hw
    simp only [SharedRegistry.advance, Function.update_self] at hpass
    exact Or.inl hpass
  · simp only [SharedRegistry.advance, Function.update_of_ne hw] at hpass
    exact Or.inr hpass

inductive Step (s : SharedRegistry ι) : SharedRegistry ι → Prop
  /-- A pass starts. A missing registry is created with any spec. -/
  | start (w : ι) (bootstrapSpec : RegistrySpec) (hidle : s.passes w = none) :
      Step s (s.advance s.ledger w (some { rest := Pass.pass bootstrapSpec }))
  /-- A pass ends, or breaks off. -/
  | stop (w : ι) : Step s (s.advance s.ledger w none)
  /-- A pass gets an answer, and nothing is stored. -/
  | hear (w : ι) {heard : List (Exchange surroundings)} {q : PassQuestion}
      {next : q.Answer → PassProgram (Except PassError Unit)}
      (hpass : s.passes w = some ⟨heard, .ask q next⟩) (answer : q.Answer)
      (hanswer : s.ledger.Answers q answer) :
      Step s (s.advance s.ledger w (some ⟨⟨q, answer⟩ :: heard, next answer⟩))
  /-- The write of a pass is accepted. The pass learns what is stored, or the answer is lost. -/
  | write (w : ι) {heard : List (Exchange surroundings)} {kind : Write} {r written : ImageRegistry}
      {next : Except StoreError ImageRegistry → PassProgram (Except PassError Unit)}
      (hpass : s.passes w = some ⟨heard, .ask (.write kind r) next⟩)
      (haccept : s.ledger.accept? kind r = some written) (version : String)
      (hfresh : s.ledger.Fresh version) (answer : Except StoreError ImageRegistry)
      (hanswer : ∀ x, answer = .ok x → x = written.stamped version) :
      Step s (s.advance (s.ledger.store written version) w
        (some ⟨⟨.write kind r, answer⟩ :: heard, next answer⟩))
  /-- Someone else creates, changes or replaces the registry. -/
  | put (r : ImageRegistry) (version : String) (hfresh : s.ledger.Fresh version) :
      Step s { s with ledger := s.ledger.store r version }
  /-- Someone else deletes the registry. -/
  | delete : Step s { s with ledger := s.ledger.clear }

variable {s s' : SharedRegistry ι}

theorem Sound.advance (h : s.Sound) {ledger : Ledger} (hledger : ledger.Sound)
    (hgrow : ∀ r ∈ s.ledger.past, r ∈ ledger.past) (w : ι) {x : Option PassSession}
    (hx : ∀ y, x = some y → y.OnGround ledger) : (s.advance ledger w x).Sound := by
  refine ⟨hledger, fun w' y hpass => ?_⟩
  rcases passes_advance hpass with heq | hbefore
  · exact hx y heq
  · exact (h.passes w' y hbefore).mono hgrow

theorem Sound.step (h : s.Sound) (hstep : Step s s') : s'.Sound := by
  cases hstep with
  | start w bootstrapSpec _ =>
      refine h.advance h.ledger (fun _ => id) w fun y hy => ?_
      cases hy
      exact ⟨Pass.pass_treads bootstrapSpec, trivial⟩
  | stop w => exact h.advance h.ledger (fun _ => id) w fun y hy => by cases hy
  | hear w hpass answer hanswer =>
      have hground := h.passes w _ hpass
      refine h.advance h.ledger (fun _ => id) w fun y hy => ?_
      cases hy
      exact ⟨hground.treads.2 answer, hground.grounded.hear hanswer⟩
  | write w hpass haccept version hfresh answer hanswer =>
      have hground := h.passes w _ hpass
      refine h.advance (h.ledger.store hfresh) (fun _ => Ledger.mem_store) w fun y hy => ?_
      cases hy
      exact ⟨hground.treads.2 answer,
        hground.grounded.write h.ledger hground.treads.1 haccept hanswer⟩
  | put r version hfresh =>
      exact ⟨h.ledger.store hfresh, fun w x hpass =>
        (h.passes w x hpass).mono fun _ => Ledger.mem_store⟩
  | delete => exact ⟨h.ledger.clear, fun w x hpass => (h.passes w x hpass).mono fun _ => id⟩

def Reachable (s : SharedRegistry ι) : Prop := Relation.ReflTransGen Step {} s

theorem Reachable.sound (hs : s.Reachable) : s.Sound := by
  induction hs with
  | refl => exact .start
  | tail _ hstep ih => exact ih.step hstep

/-- **A pass takes back nothing that others wrote.** Whenever a write of a pass is accepted, what is
stored differs from what the cache had shown to the pass in the version and the pass's own finalizer
at most. A write of metadata and spec changes no more than these two; a write of the status changes
the version and the status, and it replaces the status that had been shown. -/
theorem accepted_writes_spare_others (hs : s.Reachable) {w : ι} {heard : List (Exchange surroundings)}
    {kind : Write} {r written : ImageRegistry}
    {next : Except StoreError ImageRegistry → PassProgram (Except PassError Unit)}
    (hpass : s.passes w = some ⟨heard, .ask (.write kind r) next⟩)
    (haccept : s.ledger.accept? kind r = some written) (version : String) :
    let after := written.stamped version
    (kind = .create → s.ledger.stored = none) ∧
    (kind ≠ .create → ∃ stored base name, s.ledger.stored = some stored ∧
      heard.getLast? = some ⟨.registry name, .ok (some base)⟩ ∧
      stored.spec = base.spec ∧ stored.status = base.status ∧
      stored.metadata.foreign = base.metadata.foreign ∧
      after.spec = stored.spec ∧ after.metadata.foreign = stored.metadata.foreign ∧
      (kind = .update → after.status = stored.status) ∧
      (kind = .updateStatus →
        after.metadata = { stored.metadata with resourceVersion := some version })) := by
  have hground := hs.sound.passes w _ hpass
  have hledger := hs.sound.ledger
  have hallows : Footing.Allows _ (.write kind r) := hground.treads.1
  cases kind with
  | create =>
      refine ⟨fun _ => ?_, fun hne => absurd rfl hne⟩
      rw [Ledger.accept?] at haccept
      split_ifs at haccept with hnone
      exact Option.isNone_iff_eq_none.mp hnone
  | update =>
      obtain ⟨base, hstored, hbase, hforeign⟩ :=
        hledger.update hground.grounded hallows haccept
      obtain ⟨name, hlast⟩ := PassSession.getLast?_of_base? hbase
      obtain ⟨hmetadata, hspec, hstatus⟩ := ImageRegistry.foreign_eq_iff.mp hforeign
      exact ⟨nofun, fun _ => ⟨base, base, name, hstored, hlast, rfl, rfl, rfl, hspec, hmetadata,
        fun _ => hstatus, nofun⟩⟩
  | updateStatus =>
      obtain ⟨stored, base, hstored, hbase, hforeign, rfl⟩ :=
        hledger.updateStatus hground.grounded hallows haccept
      obtain ⟨name, hlast⟩ := PassSession.getLast?_of_base? hbase
      obtain ⟨hmetadata, hspec, hstatus⟩ := ImageRegistry.foreign_eq_iff.mp hforeign
      exact ⟨nofun, fun _ => ⟨stored, base, name, hstored, hlast, hspec, hstatus, hmetadata, rfl, rfl,
        nofun, fun _ => rfl⟩⟩

/-- A registry that is to be deleted, and that the operator and someone else hold back. -/
def heldBack : ImageRegistry where
  metadata :=
    { name := some ImageRegistry.clusterName
      deletionTimestamp := some ⟨0, 0⟩
      finalizers := some [ImageRegistry.finalizer, "example.com/backup"] }

/-- A pass that finds its objects gone lets it go, and the other finalizer stays. -/
theorem accepted_writes_spare_others_heldBack :
    ∃ (s : SharedRegistry Unit) (heard : List (Exchange surroundings)) (r written : ImageRegistry)
      (next : Except StoreError ImageRegistry → PassProgram (Except PassError Unit)),
      s.Reachable ∧ s.passes () = some ⟨heard, .ask (.write .update r) next⟩ ∧
      s.ledger.accept? .update r = some written ∧
      written.metadata.finalizers = some ["example.com/backup"] ∧
      ∃ stored, s.ledger.stored = some stored ∧
        (written.stamped "2").metadata.foreign = stored.metadata.foreign := by
  let r := heldBack.stamped "1"
  let s₁ : SharedRegistry Unit := { ledger := ({} : Ledger).store heldBack "1" }
  let s₂ := s₁.advance s₁.ledger () (some { rest := Pass.pass {} })
  have hfirst : Step {} s₁ := .put heldBack "1" fun r hr => absurd hr List.not_mem_nil
  have hstart : Step s₁ s₂ := .start () {} rfl
  obtain ⟨look, tear, write, hlook, htear, hwrite⟩ : ∃ look tear write,
      Pass.pass {} = .ask (.registry ImageRegistry.clusterName) look ∧
      look (.ok (some r)) = .ask (.finalize r) tear ∧
      tear (.ok .complete) = .ask (.write .update
        { r with metadata := r.metadata.removeFinalizer ImageRegistry.finalizer }) write :=
    ⟨_, _, _, rfl, rfl, rfl⟩
  let shown : Exchange surroundings := ⟨.registry ImageRegistry.clusterName, .ok (some r)⟩
  let torn : Exchange surroundings := ⟨.finalize r, .ok .complete⟩
  let s₃ := s₂.advance s₂.ledger () (some ⟨[shown], look (.ok (some r))⟩)
  let s₄ := s₃.advance s₃.ledger () (some ⟨[torn, shown], tear (.ok .complete)⟩)
  have hlooks : s₂.passes () = some ⟨[], .ask (.registry ImageRegistry.clusterName) look⟩ := by
    rw [← hlook]
    rfl
  have htears : s₃.passes () = some ⟨[shown], .ask (.finalize r) tear⟩ := by
    rw [← htear]
    rfl
  have hwrites : s₄.passes () = some ⟨[torn, shown], .ask (.write .update
      { r with metadata := r.metadata.removeFinalizer ImageRegistry.finalizer }) write⟩ := by
    rw [← hwrite]
    rfl
  have haccept : s₄.ledger.accept? .update
      { r with metadata := r.metadata.removeFinalizer ImageRegistry.finalizer } = some _ := rfl
  have hreach : s₄.Reachable :=
    (((Relation.ReflTransGen.single hfirst).tail hstart).tail
      (.hear () hlooks (.ok (some r)) List.mem_cons_self)).tail
        (.hear () htears (.ok .complete) trivial)
  obtain ⟨_, hspared⟩ := accepted_writes_spare_others hreach hwrites haccept "2"
  obtain ⟨stored, _, _, hstored, _, _, _, _, _, hforeign, _⟩ := hspared nofun
  exact ⟨s₄, _, _, _, _, hreach, hwrites, haccept, by decide, stored, hstored, hforeign⟩

end SharedRegistry
end RegistryOperator
