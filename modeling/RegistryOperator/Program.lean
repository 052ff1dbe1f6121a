/-! Programs that talk to their surroundings: each asks questions one after the other, goes on with
the answers, and ends with a result. What a program asks can so be told apart from who answers, and
answers may come at once, from a script, or long after. -/

namespace RegistryOperator

/-- The questions that may be asked, and the type of the answers to each. -/
structure Interface where
  Question : Type
  Answer : Question → Type

/-- A program with results of type `α`. -/
inductive Program (I : Interface) (α : Type) : Type
  | done (a : α)
  | ask (q : I.Question) (next : I.Answer q → Program I α)

namespace Program

variable {I J : Interface} {α β : Type}

/-- Goes on after a program with its result. -/
protected def bind : Program I α → (α → Program I β) → Program I β
  | .done a, f => f a
  | .ask q next, f => .ask q fun answer => (next answer).bind f

instance : Monad (Program I) where
  pure := .done
  bind := Program.bind

def question (q : I.Question) : Program I (I.Answer q) := .ask q .done

/-- Runs a program whose questions are answered by `answer`. -/
def run {m : Type → Type} [Monad m] (answer : (q : I.Question) → m (I.Answer q)) :
    Program I α → m α
  | .done a => pure a
  | .ask q next => do (next (← answer q)).run answer

theorem bind_done (p : Program I α) : p.bind .done = p := by
  induction p with
  | done a => rfl
  | ask q next ih => simp [Program.bind, ih]

theorem bind_bind {γ : Type} (p : Program I α) (f : α → Program I β) (g : β → Program I γ) :
    (p.bind f).bind g = p.bind fun a => (f a).bind g := by
  induction p with
  | done a => rfl
  | ask q next ih => simp [Program.bind, ih]

instance : LawfulMonad (Program I) :=
  .mk' _
    (fun p => bind_done p)
    (fun _ _ => rfl)
    (fun p f g => bind_bind p f g)

end Program
end RegistryOperator
