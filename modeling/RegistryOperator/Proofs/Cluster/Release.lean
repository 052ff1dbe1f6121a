import RegistryOperator.Proofs.Cluster.SharedRegistry
import RegistryOperator.Proofs.Program.Conversation

/-! When a registry is let go. However far the cache lags behind, and whoever else writes, a pass
takes the operator's finalizer off the stored object only after it asked for the objects of this
very version and heard that they are gone. A pass that hears anything else ends with an error and
has written nothing. Nor does a pass put the finalizer back on an object that is to be deleted. -/

namespace RegistryOperator

open Program (Leads)

/-- What an accepted write of a pass makes of the metadata of what is stored. -/
inductive Rewrites (heard : List (Exchange surroundings)) (stored : ImageRegistry) :
    Write → Metadata → Prop
  | hold (hstay : stored.metadata.isDeleteRequested = false) :
    Rewrites heard stored .update (stored.metadata.addFinalizer ImageRegistry.finalizer)
  | release (hdelete : stored.metadata.isDeleteRequested = true)
    (hgone : (⟨.finalize stored, .ok .complete⟩ : Exchange surroundings) ∈ heard) :
    Rewrites heard stored .update (stored.metadata.removeFinalizer ImageRegistry.finalizer)
  | keep : Rewrites heard stored .updateStatus stored.metadata

namespace Footing

variable {f : Footing} {base : ImageRegistry} {heard : List (Exchange surroundings)}

theorem eq_of_next_cleared {q : PassQuestion} {answer : q.Answer}
    (hnext : f.next q answer = .cleared base) :
    f = .cleared base ∨ f = .shown base ∧ ∃ r,
      (⟨q, answer⟩ : Exchange surroundings) = ⟨.finalize r, .ok .complete⟩ := by
  unfold next at hnext
  split at hnext
  all_goals first
    | cases hnext; exact Or.inr ⟨rfl, _, rfl⟩
    | exact Or.inl hnext
    | cases hnext

/-- The objects of what the cache showed were found to be gone. -/
theorem gone_of_cleared (hkept : protocol.Kept .unread heard)
    (hcleared : protocol.after .unread heard = .cleared base) :
    (⟨.finalize base, .ok .complete⟩ : Exchange surroundings) ∈ heard := by
  induction heard with
  | nil => cases hcleared
  | cons e heard ih =>
      obtain ⟨q, answer⟩ := e
      rcases eq_of_next_cleared hcleared with hbefore | ⟨hshown, r, heq⟩
      · exact List.mem_cons_of_mem _ (ih hkept.2 hbefore)
      · cases heq
        have hallowed : protocol.after .unread heard = .shown r := hkept.1.1
        cases hshown.symm.trans hallowed
        exact List.mem_cons_self

/-- Only the objects of what the cache showed are asked for, and only if it is to be deleted. -/
theorem shown_of_finalize (hkept : protocol.Kept .unread heard) {r : ImageRegistry}
    {answer : Except GeneratorError Teardown}
    (hmem : (⟨.finalize r, answer⟩ : Exchange surroundings) ∈ heard) :
    r.metadata.isDeleteRequested = true ∧
      ∃ name, heard.getLast? = some ⟨.registry name, .ok (some r)⟩ := by
  induction heard with
  | nil => cases hmem
  | cons e heard ih =>
      rcases List.mem_cons.mp hmem with rfl | hmem
      · obtain ⟨hshown, hdelete⟩ : Footing.Allows _ (.finalize r) := hkept.1
        have hbase : (protocol.after .unread heard).base? = some r := congrArg base? hshown
        obtain ⟨name, hlast⟩ := PassSession.getLast?_of_base? hbase
        exact ⟨hdelete, name, by rw [List.getLast?_cons, hlast]; rfl⟩
      · obtain ⟨hdelete, name, hlast⟩ := ih hkept.2 hmem
        exact ⟨hdelete, name, by rw [List.getLast?_cons, hlast]; rfl⟩

theorem Updates.rewrites {r : ImageRegistry} (hkept : protocol.Kept .unread heard)
    (hupdates : (protocol.after .unread heard).Updates r)
    (hbase : (protocol.after .unread heard).base? = some base) :
    Rewrites heard base .update r.metadata := by
  cases hf : protocol.after .unread heard with
  | shown shown =>
      rw [hf] at hupdates hbase
      cases hbase
      rw [hupdates.2.1]
      exact .hold hupdates.1
  | cleared shown =>
      rw [hf] at hupdates hbase
      cases hbase
      rw [hupdates.2.1]
      exact .release hupdates.1 (gone_of_cleared hkept hf)
  | _ =>
      rw [hf] at hupdates
      exact hupdates.elim

end Footing

namespace Pass

variable {r : ImageRegistry} {heard : List (Exchange surroundings)}
  {rest : PassProgram (Except PassError Unit)}

theorem kept_of_leads {bootstrapSpec : RegistrySpec} (h : Leads (pass bootstrapSpec) heard rest) :
    Footing.protocol.Kept .unread heard :=
  h.kept (pass_treads bootstrapSpec)

/-- Unless the objects are gone, that they were asked for is all that happens. -/
theorem finalize_holds (h : Leads (finalize r) heard rest) {r' : ImageRegistry}
    {answer : Except GeneratorError Teardown} (hanswer : answer ≠ .ok .complete)
    (hmem : (⟨.finalize r', answer⟩ : Exchange surroundings) ∈ heard) :
    heard = [⟨.finalize r', answer⟩] ∧ ∃ e, rest = .done (.error e) := by
  unfold finalize at h
  split_ifs at h
  · obtain ⟨rfl, -⟩ | ⟨_, later, rfl, hlater⟩ := Leads.of_ask h
    · cases hmem
    · obtain ⟨rfl, -⟩ := Leads.of_done hlater
      cases List.mem_singleton.mp hmem
  · obtain ⟨rfl, -⟩ | ⟨first, later, rfl, hlater⟩ := Leads.of_ask h
    · cases hmem
    · match first with
      | .error e =>
          obtain ⟨rfl, rfl⟩ := Leads.of_done hlater
          cases List.mem_singleton.mp hmem
          exact ⟨rfl, _, rfl⟩
      | .ok .pending =>
          obtain ⟨rfl, rfl⟩ := Leads.of_done hlater
          cases List.mem_singleton.mp hmem
          exact ⟨rfl, _, rfl⟩
      | .ok .complete =>
          -- After this answer there is only a write and a report to ask for.
          have hlater : ∀ e ∈ later, ∀ r', e.1 ≠ PassQuestion.finalize r' := by
            refine (Leads.asked (A := fun q : PassQuestion => ∀ r', q ≠ .finalize r') hlater ?_).1
            refine ⟨fun r' heq => (by cases heq), fun answer => ?_⟩
            cases answer with
            | error e => trivial
            | ok stored => exact ⟨fun r' heq => (by cases heq), fun _ => trivial⟩
          rcases List.mem_append.mp hmem with hmem | hmem
          · exact absurd rfl (hlater _ hmem r')
          · cases List.mem_singleton.mp hmem
            exact absurd rfl hanswer

/-- A pass that does not hear that the objects are gone ends with an error. All it did before was to
look at the registry. -/
theorem pass_holds {bootstrapSpec : RegistrySpec} (h : Leads (pass bootstrapSpec) heard rest)
    {answer : Except GeneratorError Teardown} (hanswer : answer ≠ .ok .complete)
    (hmem : (⟨.finalize r, answer⟩ : Exchange surroundings) ∈ heard) :
    heard = [⟨.finalize r, answer⟩, ⟨.registry ImageRegistry.clusterName, .ok (some r)⟩] ∧
      ∃ e, rest = .done (.error e) := by
  obtain ⟨hdelete, name, hlast⟩ := Footing.shown_of_finalize (kept_of_leads h) hmem
  obtain ⟨rfl, -⟩ | ⟨first, later, rfl, hlater⟩ := Leads.of_ask h
  · cases hmem
  · rw [List.getLast?_concat] at hlast
    cases hlast
    replace hlater : Leads (if r.metadata.isDeleteRequested then finalize r else manage r) later
      rest := hlater
    rw [if_pos hdelete] at hlater
    have hmem : (⟨.finalize r, answer⟩ : Exchange surroundings) ∈ later := by
      rcases List.mem_append.mp hmem with hmem | hmem
      · exact hmem
      · cases List.mem_singleton.mp hmem
    obtain ⟨rfl, hrest⟩ := finalize_holds hlater hanswer hmem
    exact ⟨rfl, hrest⟩

end Pass

namespace SharedRegistry

variable {ι : Type} [DecidableEq ι] {s : SharedRegistry ι} {w : ι} {x : PassSession}

/-- Every pass under way has come to where it is by asking and hearing. -/
theorem Reachable.leads (hs : s.Reachable) (hpass : s.passes w = some x) :
    ∃ bootstrapSpec, Leads (Pass.pass bootstrapSpec) x.heard x.rest := by
  induction hs generalizing w x with
  | refl => cases hpass
  | tail _ hstep ih =>
      cases hstep with
      | start _ bootstrapSpec _ =>
          rcases passes_advance hpass with heq | hbefore
          · cases heq
            exact ⟨bootstrapSpec, .start⟩
          · exact ih hbefore
      | stop _ => exact ih ((passes_advance hpass).resolve_left nofun)
      | hear _ hasked answer _ =>
          rcases passes_advance hpass with heq | hbefore
          · cases heq
            obtain ⟨bootstrapSpec, hleads⟩ := ih hasked
            exact ⟨bootstrapSpec, hleads.hear answer⟩
          · exact ih hbefore
      | write _ hasked _ _ _ answer _ =>
          rcases passes_advance hpass with heq | hbefore
          · cases heq
            obtain ⟨bootstrapSpec, hleads⟩ := ih hasked
            exact ⟨bootstrapSpec, hleads.hear answer⟩
          · exact ih hbefore
      | put _ _ _ => exact ih hpass
      | delete => exact ih hpass

theorem Reachable.rewrites (hs : s.Reachable) {heard : List (Exchange surroundings)} {kind : Write}
    {r stored written : ImageRegistry}
    {next : Except StoreError ImageRegistry → PassProgram (Except PassError Unit)}
    (hpass : s.passes w = some ⟨heard, .ask (.write kind r) next⟩)
    (hstored : s.ledger.stored = some stored) (haccept : s.ledger.accept? kind r = some written) :
    Rewrites heard stored kind written.metadata := by
  obtain ⟨bootstrapSpec, hleads⟩ := hs.leads hpass
  obtain ⟨htreads, hgrounds⟩ := hs.sound.passes w _ hpass
  have hallows : Footing.Allows _ (.write kind r) := htreads.1
  cases kind with
  | create => simp [Ledger.accept?, hstored] at haccept
  | update =>
      obtain ⟨base, hbase, hfooting, rfl⟩ := hs.sound.ledger.update_replaces hgrounds hallows haccept
      cases hstored.symm.trans hbase
      exact Footing.Updates.rewrites (r := r) (Pass.kept_of_leads hleads) hallows hfooting
  | updateStatus =>
      obtain ⟨base, _, hbase, _, _, rfl⟩ := hs.sound.ledger.updateStatus hgrounds hallows haccept
      cases hstored.symm.trans hbase
      exact .keep

/-- Every conversation whose answers the store gives can be had. -/
theorem Reachable.converse (hs : s.Reachable) (hidle : s.passes w = none)
    {bootstrapSpec : RegistrySpec} {heard : List (Exchange surroundings)}
    {rest : PassProgram (Except PassError Unit)} (h : Leads (Pass.pass bootstrapSpec) heard rest)
    (hanswers : ∀ e ∈ heard, s.ledger.Answers e.1 e.2) :
    (s.advance s.ledger w (some ⟨heard, rest⟩)).Reachable := by
  induction h with
  | start => exact hs.tail (.start w bootstrapSpec hidle)
  | @hear heard q next hleads answer ih =>
      obtain ⟨hanswer, hanswers⟩ := List.forall_mem_cons.mp hanswers
      have hstep := Step.hear w (s.passes_advance_self s.ledger w (some ⟨heard, .ask q next⟩)) answer
        hanswer
      simp only [SharedRegistry.advance, Function.update_idem] at hstep
      exact (ih hanswers).tail hstep

/-- **The finalizer stays until teardown is complete.** Whenever a write of a pass is accepted that
takes the finalizer off the stored object, deletion was requested, the pass had asked for the
objects of this very version and heard that they are gone, and all other finalizers stay in their
order. Where deletion was requested, no write puts the finalizer on. A pass that does not hear that
the objects are gone ends with an error and writes nothing. -/
theorem finalizer_stays_until_teardown (hs : s.Reachable) (hpass : s.passes w = some x) :
    (∀ kind r next stored written, x.rest = .ask (.write kind r) next →
      s.ledger.stored = some stored → s.ledger.accept? kind r = some written →
      (stored.metadata.hasFinalizer ImageRegistry.finalizer = true →
        written.metadata.hasFinalizer ImageRegistry.finalizer = false →
        kind = .update ∧ stored.metadata.isDeleteRequested = true ∧
        ⟨.finalize stored, .ok .complete⟩ ∈ x.heard ∧
        written.metadata = { stored.metadata with
          finalizers := stored.metadata.finalizers.map (·.filter (· ≠ ImageRegistry.finalizer)) }) ∧
      (stored.metadata.isDeleteRequested = true →
        written.metadata.hasFinalizer ImageRegistry.finalizer = true →
        written.metadata.finalizers = stored.metadata.finalizers)) ∧
    (∀ r answer, ⟨.finalize r, answer⟩ ∈ x.heard → answer ≠ .ok .complete →
      (∃ e, x.rest = .done (.error e)) ∧ ∀ kind r' result, ⟨.write kind r', result⟩ ∉ x.heard) := by
  constructor
  · rintro kind r next stored written hrest hstored haccept
    obtain ⟨heard, rest⟩ := x
    cases hrest
    generalize hmetadata : written.metadata = metadata
    have hrewrites := hmetadata ▸ hs.rewrites hpass hstored haccept
    cases hrewrites with
    | hold hstay =>
        have hheld := Metadata.hasFinalizer_addFinalizer stored.metadata ImageRegistry.finalizer
        exact ⟨fun _ hgone => absurd hgone (by simp [hheld]),
          fun hdelete => absurd hdelete (by simp [hstay])⟩
    | release hdelete hgone =>
        have hfree := Metadata.hasFinalizer_removeFinalizer stored.metadata ImageRegistry.finalizer
        exact ⟨fun _ _ => ⟨rfl, hdelete, hgone, rfl⟩, fun _ hheld => absurd hheld (by simp [hfree])⟩
    | keep => exact ⟨fun hheld hfree => absurd hheld (by simp [hfree]), fun _ _ => rfl⟩
  · intro r answer hmem hanswer
    obtain ⟨bootstrapSpec, hleads⟩ := hs.leads hpass
    obtain ⟨hheard, hrest⟩ := Pass.pass_holds hleads hanswer hmem
    refine ⟨hrest, fun kind r' result hwrite => ?_⟩
    rw [hheard] at hwrite
    rcases List.mem_cons.mp hwrite with heq | hmem
    · cases heq
    · cases List.mem_singleton.mp hmem

/-- Someone else's finalizer stays when the operator lets the registry go. -/
theorem finalizer_stays_until_teardown_heldBack :
    ∃ (s : SharedRegistry Unit) (x : PassSession) (r stored written : ImageRegistry)
      (next : Except StoreError ImageRegistry → PassProgram (Except PassError Unit)),
      s.Reachable ∧ s.passes () = some x ∧ x.rest = .ask (.write .update r) next ∧
      s.ledger.stored = some stored ∧ s.ledger.accept? .update r = some written ∧
      stored.metadata.finalizers = some [ImageRegistry.finalizer, "example.com/backup"] ∧
      written.metadata.finalizers = some ["example.com/backup"] ∧
      stored.metadata.isDeleteRequested = true ∧ ⟨.finalize stored, .ok .complete⟩ ∈ x.heard := by
  let stored := heldBack.stamped "1"
  let r := { stored with metadata := stored.metadata.removeFinalizer ImageRegistry.finalizer }
  let s : SharedRegistry Unit := { ledger := ({} : Ledger).store heldBack "1" }
  let heard : List (Exchange surroundings) :=
    [⟨.finalize stored, .ok .complete⟩, ⟨.registry ImageRegistry.clusterName, .ok (some stored)⟩]
  have hshown : Leads (Pass.pass {}) [⟨.registry ImageRegistry.clusterName, .ok (some stored)⟩]
      (Pass.finalize stored) :=
    .hear (I := surroundings) (q := PassQuestion.registry ImageRegistry.clusterName) .start
      (Except.ok (some stored))
  obtain ⟨next, hleads⟩ : ∃ next, Leads (Pass.pass {}) heard (.ask (.write .update r) next) :=
    ⟨_, .hear (I := surroundings) (q := PassQuestion.finalize stored) hshown (Except.ok .complete)⟩
  have hstored : s.Reachable :=
    .single (.put heldBack "1" fun _ hmem => absurd hmem List.not_mem_nil)
  have hreach := hstored.converse (w := ()) rfl hleads fun e hmem => by
    rcases List.mem_cons.mp hmem with rfl | hmem
    · trivial
    · cases List.mem_singleton.mp hmem
      exact List.mem_cons_self
  have hpass := s.passes_advance_self s.ledger () (some ⟨heard, .ask (.write .update r) next⟩)
  obtain ⟨hremoved, _⟩ :=
    (finalizer_stays_until_teardown hreach hpass).1 .update r next stored r rfl rfl rfl
  obtain ⟨_, hdelete, hgone, _⟩ := hremoved (by decide) (by decide)
  exact ⟨_, _, r, stored, r, next, hreach, hpass, rfl, rfl, rfl, rfl, by decide, hdelete, hgone⟩

end SharedRegistry
end RegistryOperator
