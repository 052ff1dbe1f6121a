import RegistryOperator.Proofs.Program.Protocol

/-! Conversations: what a program asked and heard up to some point, and what is left of it then. A
program that obeys a protocol does so at every point of every conversation. Whoever answers it, and
whatever the answers depend on, a program comes to its end. -/

namespace RegistryOperator

variable {I : Interface} {σ α β : Type}

/-- Each question was allowed when it was asked. -/
def Protocol.Kept (P : Protocol I σ) (s : σ) : List (Exchange I) → Prop
  | [] => True
  | e :: heard => P.allows (P.after s heard) e.1 ∧ P.Kept s heard

/-- Someone who answers, with regard to all that was asked and heard before. -/
abbrev Responder (I : Interface) : Type := List (Exchange I) → (q : I.Question) → I.Answer q

/-- Answers a question and takes down the exchange. -/
def Responder.listen (answer : Responder I) (q : I.Question) :
    StateM (List (Exchange I)) (I.Answer q) :=
  fun heard => (answer heard q, ⟨q, answer heard q⟩ :: heard)

namespace Program

/-- What is left of a program after some exchanges, of which the latest stands first. -/
inductive Leads (p : Program I α) : List (Exchange I) → Program I α → Prop
  | start : Leads p [] p
  | hear {heard : List (Exchange I)} {q : I.Question} {next : I.Answer q → Program I α}
      (hleads : Leads p heard (.ask q next)) (answer : I.Answer q) :
      Leads p (⟨q, answer⟩ :: heard) (next answer)

/-- Whatever is answered, all questions are of one kind. -/
def Asks (A : I.Question → Prop) : Program I α → Prop
  | .done _ => True
  | .ask q next => A q ∧ ∀ answer, (next answer).Asks A

/-- Whatever is answered, the result of a program and its whole conversation are as `Q` says. -/
def Always (Q : α → List (Exchange I) → Prop) : Program I α → Prop
  | .done a => Q a []
  | .ask q next => ∀ answer, (next answer).Always fun a later => Q a (later ++ [⟨q, answer⟩])

/-- The result of a program and the whole conversation that led to it. -/
def converse (answer : Responder I) (p : Program I α) : α × List (Exchange I) :=
  p.run answer.listen []

variable {P : Protocol I σ} {Q R : α → σ → Prop} {s : σ} {p rest : Program I α}
  {heard : List (Exchange I)}

theorem Obeys.mono (hp : Obeys P Q s p) (hQ : ∀ a s', Q a s' → R a s') : Obeys P R s p := by
  induction p generalizing s with
  | done a => exact hQ a s hp
  | ask q next ih => exact ⟨hp.1, fun answer => ih answer (hp.2 answer)⟩

theorem Leads.obeys (h : Leads p heard rest) (hp : Obeys P Q s p) :
    Obeys P Q (P.after s heard) rest := by
  induction h with
  | start => exact hp
  | hear _ answer ih => exact ih.2 answer

theorem Leads.kept (h : Leads p heard rest) (hp : Obeys P Q s p) : P.Kept s heard := by
  induction h with
  | start => trivial
  | hear hleads answer ih => exact ⟨(hleads.obeys hp).1, ih⟩

theorem Leads.asked {A : I.Question → Prop} (h : Leads p heard rest) (hp : p.Asks A) :
    (∀ e ∈ heard, A e.1) ∧ rest.Asks A := by
  induction h with
  | start => exact ⟨fun _ hmem => absurd hmem List.not_mem_nil, hp⟩
  | hear _ answer ih => exact ⟨List.forall_mem_cons.mpr ⟨ih.2.1, ih.1⟩, ih.2.2 answer⟩

/-- A program that has not asked yet, or asked its first question and went on from the answer. -/
theorem Leads.of_ask {q : I.Question} {next : I.Answer q → Program I α}
    (h : Leads (.ask q next) heard rest) :
    heard = [] ∧ rest = .ask q next ∨
      ∃ answer later, heard = later ++ [⟨q, answer⟩] ∧ Leads (next answer) later rest := by
  induction h with
  | start => exact Or.inl ⟨rfl, rfl⟩
  | hear _ answer ih =>
      right
      rcases ih with ⟨rfl, heq⟩ | ⟨first, later, rfl, hlater⟩
      · cases heq
        exact ⟨answer, [], rfl, .start⟩
      · exact ⟨first, _ :: later, rfl, hlater.hear answer⟩

theorem Leads.of_done {a : α} (h : Leads (.done a) heard rest) : heard = [] ∧ rest = .done a := by
  induction h with
  | start => exact ⟨rfl, rfl⟩
  | hear _ _ ih => cases ih.2

theorem Leads.trans {p' : Program I α} {later : List (Exchange I)} (hp : Leads p heard p')
    (hrest : Leads p' later rest) : Leads p (later ++ heard) rest := by
  induction hrest with
  | start => exact hp
  | hear _ answer ih => exact ih.hear answer

/-- A program that goes on after another takes its conversation up. -/
theorem Leads.bind {f : α → Program I β} {a : α} {later : List (Exchange I)} {rest : Program I β}
    (hp : Leads p heard (.done a)) (hf : Leads (f a) later rest) :
    Leads (p >>= f) (later ++ heard) rest := by
  have hbind : ∀ {heard : List (Exchange I)} {p' : Program I α}, Leads p heard p' →
      Leads (p >>= f) heard (p' >>= f) := by
    intro heard p' hleads
    induction hleads with
    | start => exact .start
    | hear _ answer ih => exact ih.hear answer
  exact (hbind hp).trans hf

/-- What a program obeys holds of its result at the end of the conversation. -/
theorem Obeys.run (hp : Obeys P Q (P.after s heard) p) (answer : Responder I) :
    Q (p.run answer.listen heard).1 (P.after s (p.run answer.listen heard).2) := by
  induction p generalizing heard with
  | done a => exact hp
  | ask q next ih => exact ih _ (hp.2 (answer heard q))

section

variable {T U : α → List (Exchange I) → Prop} {V : β → List (Exchange I) → Prop}

theorem Always.mono (hp : p.Always T) (hT : ∀ a heard, T a heard → U a heard) : p.Always U := by
  induction p generalizing T U with
  | done a => exact hT a [] hp
  | ask q next ih => exact fun answer => ih answer (hp answer) fun a later => hT a _

theorem Always.bind {f : α → Program I β} (hp : p.Always T)
    (hf : ∀ a heard, T a heard → (f a).Always fun b later => V b (later ++ heard)) :
    (p >>= f).Always V := by
  induction p generalizing T V with
  | done a =>
      have ha := hf a [] hp
      simp only [List.append_nil] at ha
      exact ha
  | ask q next ih =>
      intro answer
      refine ih answer (hp answer) fun a heard ha => (hf a _ ha).mono fun b later hb => ?_
      rwa [List.append_assoc]

/-- What is left of a program takes its conversation up where it is. -/
theorem Leads.always (h : Leads p heard rest) (hp : p.Always T) :
    rest.Always fun a later => T a (later ++ heard) := by
  induction h with
  | start => simpa using hp
  | hear _ answer ih =>
      refine (ih answer).mono fun a later ha => ?_
      simpa using ha

/-- At its end the result of a program and its conversation are as they always are. -/
theorem Leads.ended {a : α} (h : Leads p heard (.done a)) (hp : p.Always T) : T a heard :=
  h.always hp

theorem Always.run (hp : p.Always T) (answer : Responder I) (heard : List (Exchange I)) :
    ∃ later, (p.run answer.listen heard).2 = later ++ heard ∧
      T (p.run answer.listen heard).1 later := by
  induction p generalizing T heard with
  | done a => exact ⟨[], rfl, hp⟩
  | ask q next ih =>
      let e : Exchange I := ⟨q, answer heard q⟩
      obtain ⟨later, hlater, ha⟩ := ih _ (hp (answer heard q)) (e :: heard)
      refine ⟨later ++ [e], hlater.trans ?_, ha⟩
      rw [List.append_assoc, List.singleton_append]

theorem Always.converse (hp : p.Always T) (answer : Responder I) :
    T (p.converse answer).1 (p.converse answer).2 := by
  obtain ⟨later, hlater, ha⟩ := hp.run answer []
  rw [List.append_nil] at hlater
  rw [Program.converse, hlater]
  exact ha

end

section

variable {m : Type → Type} [Monad m] (answer : (q : I.Question) → m (I.Answer q))

variable [LawfulMonad m]

@[simp] theorem run_question (q : I.Question) : (question q).run answer = answer q :=
  bind_pure (answer q)

@[simp] theorem run_bind (p : Program I α) (f : α → Program I β) :
    (p >>= f).run answer = p.run answer >>= fun a => (f a).run answer := by
  induction p with
  | done a => exact (pure_bind (m := m) a fun a => (f a).run answer).symm
  | ask q next ih =>
      change (answer q >>= fun a => (next a >>= f).run answer) =
        (answer q >>= fun a => (next a).run answer) >>= fun a => (f a).run answer
      simp only [ih, bind_assoc]

end

end Program
end RegistryOperator
