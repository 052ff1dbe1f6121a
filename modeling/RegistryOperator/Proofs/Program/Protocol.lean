import RegistryOperator.Program

/-! Protocols: what a program may ask depends on what it asked and heard before. A program keeps to a
protocol if it asks nothing else whatever it is answered, and then it still does so at every point of
every conversation, however long an answer takes. -/

namespace RegistryOperator

/-- A question and the answer to it. -/
abbrev Exchange (I : Interface) : Type := (q : I.Question) × I.Answer q

/-- What may be asked in each state, and the state after each answer. -/
structure Protocol (I : Interface) (σ : Type) where
  allows : σ → I.Question → Prop
  next : σ → (q : I.Question) → I.Answer q → σ

/-- The state after some exchanges, of which the latest stands first. -/
def Protocol.after {I : Interface} {σ : Type} (P : Protocol I σ) (s : σ) : List (Exchange I) → σ
  | [] => s
  | e :: heard => P.next (P.after s heard) e.1 e.2

theorem Protocol.after_append {I : Interface} {σ : Type} (P : Protocol I σ) (s : σ)
    (later heard : List (Exchange I)) :
    P.after s (later ++ heard) = P.after (P.after s heard) later := by
  induction later with
  | nil => rfl
  | cons e later ih => rw [List.cons_append, after, after, ih]

/-- A program under way. -/
structure Session (I : Interface) (α : Type) where
  /-- What it asked and heard so far, the latest first. -/
  heard : List (Exchange I) := []
  rest : Program I α

namespace Program

variable {I : Interface} {σ α β : Type} {P : Protocol I σ}

/-- From a state on the program asks what is allowed, whatever is answered, and its result and the
state at its end are as `Q` says. -/
def Obeys (P : Protocol I σ) (Q : α → σ → Prop) : σ → Program I α → Prop
  | s, .done a => Q a s
  | s, .ask q next => P.allows s q ∧ ∀ answer, (next answer).Obeys P Q (P.next s q answer)

variable {Q : α → σ → Prop} {R : β → σ → Prop} {s : σ}

theorem Obeys.pure {a : α} (ha : Q a s) : Obeys P Q s (pure a : Program I α) := ha

theorem Obeys.bind {p : Program I α} {f : α → Program I β} (hp : Obeys P Q s p)
    (hf : ∀ a s', Q a s' → Obeys P R s' (f a)) : Obeys P R s (p >>= f) := by
  induction p generalizing s with
  | done a => exact hf a s hp
  | ask q next ih => exact ⟨hp.1, fun answer => ih answer (hp.2 answer)⟩

theorem Obeys.question_bind {q : I.Question} {f : I.Answer q → Program I β} (hq : P.allows s q)
    (hf : ∀ answer, Obeys P R (P.next s q answer) (f answer)) :
    Obeys P R s (question q >>= f) :=
  ⟨hq, hf⟩

end Program
end RegistryOperator
