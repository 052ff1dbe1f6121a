import RegistryOperator.Proofs.Reconcile.Course

/-! What a pass brings about, read off the parts of its course: the calls for the objects that the
registry needs, and the writes. A pass that keeps a registry calls once at most, and then writes
what changed, unless it could not see the deployment or its first write failed. A pass that lets a
registry go calls before it takes the finalizer off. -/

namespace RegistryOperator

/-- The questions, in their order. -/
def asked (said : List (Exchange surroundings)) : List PassQuestion := said.map fun e => e.1

/-- A question was asked and answered so. -/
def Heard (said : List (Exchange surroundings)) (q : PassQuestion) (answer : q.Answer) : Prop :=
  (⟨q, answer⟩ : Exchange surroundings) ∈ said

def PassQuestion.write? : PassQuestion → Option Write
  | .write kind _ => some kind
  | _ => none

/-- The kinds of the writes, in their order. -/
def writes (said : List (Exchange surroundings)) : List Write := (asked said).filterMap (·.write?)

@[simp] theorem asked_nil : asked [] = [] := rfl

theorem asked_append (said later : List (Exchange surroundings)) :
    asked (said ++ later) = asked said ++ asked later :=
  List.map_append

variable {said later : List (Exchange surroundings)} {q : PassQuestion}

theorem Heard.asked {answer : q.Answer} (h : Heard said q answer) : q ∈ asked said :=
  List.mem_map_of_mem (f := fun e : Exchange surroundings => e.1) h

theorem heard_append_left {answer : q.Answer} (h : q ∉ asked later) :
    Heard (said ++ later) q answer ↔ Heard said q answer :=
  List.mem_append.trans (or_iff_left fun hheard => h (Heard.asked hheard))

theorem heard_append_right {answer : q.Answer} (h : q ∉ asked said) :
    Heard (said ++ later) q answer ↔ Heard later q answer :=
  List.mem_append.trans (or_iff_right fun hheard => h (Heard.asked hheard))

/-- No look at a cache failed. -/
structure Listed (said : List (Exchange surroundings)) : Prop where
  registry : ∀ name e, ¬ Heard said (.registry name) (.error e)
  deployment : ∀ name e, ¬ Heard said (.deployment name) (.error e)

theorem effects_eq_nil (h : ∀ q ∈ asked said, q.isEffect = false) : effects said = [] :=
  List.filter_eq_nil_iff.mpr fun _ he =>
    ne_true_of_eq_false (h _ (List.mem_map_of_mem (f := fun e : Exchange surroundings => e.1) he))

theorem effects_eq_self (h : ∀ q ∈ asked said, q.isEffect = true) : effects said = said :=
  List.filter_eq_self.mpr fun _ he =>
    h _ (List.mem_map_of_mem (f := fun e : Exchange surroundings => e.1) he)

theorem effects_append : effects (said ++ later) = effects said ++ effects later :=
  List.filter_append ..

theorem Minutes.note_applied {m : Minutes} {answer : q.Answer} (hq : q.isCall = false) :
    (m.note q answer).applied = m.applied := by
  match q, answer with
  | .registry _, _ => rfl
  | .deployment _, .ok _ => rfl
  | .deployment _, .error _ => rfl
  | .write .create _, .ok _ => rfl
  | .write .update _, .ok _ => rfl
  | .write .updateStatus _, .ok _ => rfl
  | .write _ _, .error _ => rfl
  | .readings, _ => rfl
  | .report _, _ => rfl
  | .apply _, _ => cases hq
  | .remove _, _ => cases hq
  | .finalize _, _ => cases hq

/-- Nothing but a call changes what came of applying the state. -/
theorem Minutes.after_applied {m : Minutes} (hsaid : ∀ q ∈ asked said, q.isCall = false) :
    (protocol.after m said.reverse).applied = m.applied := by
  induction said generalizing m with
  | nil => rfl
  | cons e said ih =>
      rw [List.reverse_cons, protocol.after_append, ih (List.forall_mem_cons.mp hsaid).2]
      exact Minutes.note_applied (List.forall_mem_cons.mp hsaid).1

namespace Course

variable {shown r : ImageRegistry} {applied : Applied} {calls : List (Exchange surroundings)}

/-- What came of applying the state of a registry, as the minutes have it. -/
def outcome (shown : ImageRegistry) (said : List (Exchange surroundings)) : Applied :=
  (Minutes.protocol.after (.start shown) said.reverse).applied

namespace Call

theorem mem (h : Call r applied calls) (hq : q ∈ asked calls) :
    q = .apply r ∧ r.spec.managementState = .managed ∧ r.spec.verify = .ok () ∨
      q = .remove r ∧ r.spec.managementState = .removed := by
  cases h with
  | apply hstate hverify => exact Or.inl ⟨List.mem_singleton.mp hq, hstate, hverify⟩
  | remove hstate => exact Or.inr ⟨List.mem_singleton.mp hq, hstate⟩
  | none => cases hq

theorem length_le (h : Call r applied calls) : calls.length ≤ 1 := by
  cases h <;> simp

theorem isCall (h : Call r applied calls) (hq : q ∈ asked calls) : q.isCall = true := by
  rcases h.mem hq with ⟨rfl, _⟩ | ⟨rfl, _⟩ <;> rfl

theorem outcome_eq (h : Call shown.held applied calls) {rest : List (Exchange surroundings)}
    (hrest : ∀ q ∈ asked rest, q.isCall = false) : outcome shown (calls ++ rest) = applied := by
  rw [outcome, List.reverse_append, Minutes.protocol.after_append, Minutes.after_applied hrest]
  cases h with
  | apply => rfl
  | remove => rfl
  | none => rfl

end Call

theorem StatusWrite.mem (h : StatusWrite shown r said) (hq : q ∈ asked said) :
    q = .write .updateStatus r ∧ r.status ≠ shown.status := by
  cases h with
  | same => cases hq
  | write hchanged => exact ⟨List.mem_singleton.mp hq, hchanged⟩

theorem StatusWrite.sublist (h : StatusWrite shown r said) :
    (writes said).Sublist [.updateStatus] := by
  cases h with
  | same => exact List.nil_sublist _
  | write => exact List.Sublist.refl _

namespace Writes

theorem mem (h : Writes shown r said) (hq : q ∈ asked said) :
    q = .write .update r ∨
      ∃ r', q = .write .updateStatus r' ∧ r'.spec = r.spec ∧ r'.status = r.status := by
  cases h with
  | same _ hstatus => exact Or.inr ⟨r, (hstatus.mem hq).1, rfl, rfl⟩
  | refused => exact Or.inl (List.mem_singleton.mp hq)
  | accepted _ stored hstatus =>
      rcases List.mem_cons.mp hq with heq | hq
      · exact Or.inl heq
      · exact Or.inr ⟨r.atVersionOf stored, (hstatus.mem hq).1, rfl, rfl⟩

theorem isWrite (h : Writes shown r said) (q : PassQuestion) (hq : q ∈ asked said) :
    q.isWrite = true := by
  rcases h.mem hq with rfl | ⟨r', rfl, _⟩ <;> rfl

theorem sublist (h : Writes shown r said) : (writes said).Sublist [.update, .updateStatus] := by
  cases h with
  | same _ hstatus => exact hstatus.sublist.cons _
  | refused => exact (List.nil_sublist _).cons_cons _
  | accepted _ _ hstatus => exact hstatus.sublist.cons_cons _

end Writes

theorem asked_looks (deployment : Option Deployment) (readings : Readings) :
    asked (looks deployment readings) = [.deployment registryName, .readings] := rfl

theorem Call.outcome_looks (h : Call shown.held applied calls) {deployment : Option Deployment}
    {readings : Readings} (hwrites : ∀ q ∈ asked said, q.isWrite = true) :
    outcome shown (calls ++ looks deployment readings ++ said) = applied := by
  rw [List.append_assoc]
  refine h.outcome_eq fun q hq => ?_
  rw [asked_append, asked_looks] at hq
  rcases List.mem_append.mp hq with hq | hq
  · rcases List.mem_pair.mp hq with rfl | rfl <;> rfl
  · cases q with
    | write => rfl
    | _ => cases hwrites _ hq

theorem heard_looks_deployment {deployment : Option Deployment} {readings : Readings}
    {name : String} {answer : Except ListerError (Option Deployment)}
    (h : Heard (looks deployment readings) (.deployment name) answer) :
    answer = .ok deployment := by
  rcases List.mem_cons.mp h with heq | h
  · cases heq
    rfl
  · cases List.mem_singleton.mp h

section

variable {looked : List (Exchange surroundings)} {kind : Write} {u : ImageRegistry}

/-- Calling and looking around is no writing. -/
theorem Call.not_mem_write (h : Call r applied calls)
    (hlooked : ∀ q ∈ asked looked, q = .deployment registryName ∨ q = .readings) (kind : Write)
    (u : ImageRegistry) : .write kind u ∉ asked (calls ++ looked) := by
  intro hq
  rw [asked_append] at hq
  rcases List.mem_append.mp hq with hq | hq
  · cases h.isCall hq
  · rcases hlooked _ hq with heq | heq <;> cases heq

theorem Call.heard_look (h : Call r applied calls)
    (hlater : ∀ q ∈ asked later, q.isWrite = true) (hq : q.isEffect = false) {answer : q.Answer} :
    Heard (calls ++ looked ++ later) q answer ↔ Heard looked q answer := by
  obtain ⟨hcall, hwrite⟩ := Bool.or_eq_false_iff.mp hq
  rw [heard_append_left, heard_append_right]
  · intro hmem
    rw [h.isCall hmem] at hcall
    cases hcall
  · intro hmem
    rw [hlater q hmem] at hwrite
    cases hwrite

end

theorem Call.listed (h : Call r applied calls) {deployment : Option Deployment}
    {readings : Readings} (hwrites : ∀ q ∈ asked said, q.isWrite = true) :
    Listed (calls ++ looks deployment readings ++ said) where
  registry name e hheard := by
    have hlook := Heard.asked ((h.heard_look hwrites rfl).mp hheard)
    rw [asked_looks] at hlook
    rcases List.mem_pair.mp hlook with heq | heq <;> cases heq
  deployment name e hheard := by
    cases heard_looks_deployment ((h.heard_look hwrites rfl).mp hheard)

namespace Upkeep

/-- A pass that keeps a registry calls, looks around and writes. It does not write if it could not
see the deployment. -/
theorem split (h : Upkeep shown said) : ∃ calls looked later,
    said = calls ++ looked ++ later ∧ Call shown.held (outcome shown said) calls ∧
    (∀ q ∈ asked looked, q = .deployment registryName ∨ q = .readings) ∧
    ((∃ e, looked = [⟨.deployment registryName, .error e⟩] ∧ later = []) ∨
      ∃ deployment readings, looked = looks deployment readings ∧
        Writes shown (shown.held.observed readings deployment (outcome shown said)) later) := by
  cases h with
  | blind hcalls e =>
      refine ⟨_, _, [], (List.append_nil _).symm, ?_, ?_, Or.inl ⟨e, rfl, rfl⟩⟩
      · rwa [hcalls.outcome_eq]
        exact List.forall_mem_singleton.mpr rfl
      · exact fun q hq => Or.inl (List.mem_singleton.mp hq)
  | write hcalls deployment readings hwrites =>
      refine ⟨_, _, _, rfl, ?_, ?_, Or.inr ⟨deployment, readings, rfl, ?_⟩⟩
      · rwa [hcalls.outcome_looks hwrites.isWrite]
      · simp [asked_looks]
      · rwa [hcalls.outcome_looks hwrites.isWrite]

/-- All that is asked for, in three groups. -/
theorem mem (h : Upkeep shown said) (hq : q ∈ asked said) :
    (q = .apply shown.held ∧ shown.spec.managementState = .managed ∧
        shown.spec.verify = .ok () ∨
      q = .remove shown.held ∧ shown.spec.managementState = .removed) ∨
    (q = .deployment registryName ∨ q = .readings) ∨
    ∃ kind r, q = .write kind r ∧ kind ≠ .create ∧ r.spec = shown.spec := by
  obtain ⟨calls, looked, later, rfl, hcalls, hlooked, hlater⟩ := h.split
  rw [asked_append, asked_append] at hq
  rcases List.mem_append.mp hq with hq | hq
  · rcases List.mem_append.mp hq with hq | hq
    · exact Or.inl (hcalls.mem hq)
    · exact Or.inr (Or.inl (hlooked q hq))
  · right; right
    rcases hlater with ⟨e, _, rfl⟩ | ⟨deployment, readings, _, hwrites⟩
    · cases hq
    · rcases hwrites.mem hq with rfl | ⟨r', rfl, hspec, _⟩
      · exact ⟨.update, _, rfl, nofun, rfl⟩
      · exact ⟨.updateStatus, _, rfl, nofun, hspec⟩

theorem effects_eq (h : Upkeep shown said) : ∃ calls later, effects said = calls ++ later ∧
    calls.length ≤ 1 ∧ (∀ q ∈ asked calls, q.isCall = true) ∧
    ∀ q ∈ asked later, q.isWrite = true := by
  obtain ⟨calls, looked, later, rfl, hcalls, hlooked, hlater⟩ := h.split
  have hwrite : ∀ q ∈ asked later, q.isWrite = true := by
    intro q hq
    rcases hlater with ⟨e, _, rfl⟩ | ⟨deployment, readings, _, hwrites⟩
    · cases hq
    · exact hwrites.isWrite q hq
  refine ⟨calls, later, ?_, hcalls.length_le, fun q => hcalls.isCall, hwrite⟩
  rw [effects_append, effects_append, effects_eq_self, effects_eq_nil, List.append_nil,
    effects_eq_self]
  · intro q hq
    rw [PassQuestion.isEffect, hwrite q hq, Bool.or_true]
  · intro q hq
    rcases hlooked q hq with rfl | rfl <;> rfl
  · intro q hq
    rw [PassQuestion.isEffect, hcalls.isCall hq, Bool.true_or]

theorem sublist (h : Upkeep shown said) : (writes said).Sublist [.update, .updateStatus] := by
  obtain ⟨calls, looked, later, rfl, hcalls, hlooked, hlater⟩ := h.split
  have hnone : writes (calls ++ looked) = [] := by
    refine List.filterMap_eq_nil_iff.mpr fun q hq => ?_
    cases q with
    | write kind u => exact absurd hq (hcalls.not_mem_write hlooked kind u)
    | _ => rfl
  rw [writes, asked_append, List.filterMap_append, ← writes, hnone, List.nil_append]
  rcases hlater with ⟨e, _, rfl⟩ | ⟨deployment, readings, _, hwrites⟩
  · exact List.nil_sublist _
  · exact hwrites.sublist

end Upkeep

namespace Departure

/-- A pass that lets a registry go asks whether its objects are gone, and then takes the finalizer
off. -/
theorem mem (h : Departure shown said) (hq : q ∈ asked said) :
    shown.metadata.hasFinalizer ImageRegistry.finalizer = true ∧
      (q = .finalize shown ∨ ∃ r, q = .write .update r ∧ r.spec = shown.spec) := by
  cases h with
  | free => cases hq
  | kept hheld => exact ⟨hheld, Or.inl (List.mem_singleton.mp hq)⟩
  | released hheld =>
      refine ⟨hheld, ?_⟩
      rcases List.mem_pair.mp hq with rfl | rfl
      · exact Or.inl rfl
      · exact Or.inr ⟨_, rfl, rfl⟩

theorem effects_eq (h : Departure shown said) : ∃ calls later, effects said = calls ++ later ∧
    calls.length ≤ 1 ∧ (∀ q ∈ asked calls, q.isCall = true) ∧
    ∀ q ∈ asked later, q.isWrite = true := by
  cases h with
  | free => exact ⟨[], [], rfl, Nat.zero_le _, by simp, by simp⟩
  | kept _ answer =>
      exact ⟨[⟨.finalize shown, answer⟩], [], rfl, Nat.le_refl 1,
        List.forall_mem_singleton.mpr rfl, by simp⟩
  | released _ answer =>
      exact ⟨[⟨.finalize shown, .ok .complete⟩], [⟨.write .update _, answer⟩], rfl, Nat.le_refl 1,
        List.forall_mem_singleton.mpr rfl, List.forall_mem_singleton.mpr rfl⟩

theorem sublist (h : Departure shown said) : (writes said).Sublist [.update, .updateStatus] := by
  cases h with
  | free => exact List.nil_sublist _
  | kept => exact List.nil_sublist _
  | released => exact (List.nil_sublist _).cons_cons _

end Departure

end Course
end RegistryOperator
