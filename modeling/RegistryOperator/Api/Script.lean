import RegistryOperator.Api.Http

/-! What a server refuses, and a server that answers from a script: the replies are laid down in
advance, in the order of the requests, and after the last one nothing is found. What was asked and
reported is kept. -/

namespace RegistryOperator

namespace Cluster

def refuse (code : Nat) (reason : String) : ApiFailure :=
  .refused ⟨"Failure", reason ++ " error", reason, code⟩

def refusedReply (code : Nat) (reason : String) : Reply :=
  let body : Json := .obj [("kind", .str "Status"), ("apiVersion", .str "v1"),
    ("metadata", .obj []), ("status", .str "Failure"), ("message", .str (reason ++ " error")),
    ("reason", .str reason), ("code", .int code)]
  .ok ⟨code, .ok body.text⟩

end Cluster

/-- The replies to come, and what was asked and reported so far, the last first. -/
structure ApiScript where
  replies : List Reply
  requests : List Request := []
  log : Log := []

namespace ApiScript

def answer : (q : ApiQuestion) → StateM ApiScript q.Answer
  | .send r => fun s =>
    (s.replies.head?.getD (Cluster.refusedReply 404 "NotFound"),
      { s with replies := s.replies.tail, requests := r :: s.requests })
  | .report line => fun s => ((), { s with log := line :: s.log })

/-- Runs a program; its result, its requests and what it reported, in their order. -/
def run {α : Type} (p : Program api α) (replies : List Reply) : α × List Request × Log :=
  let (a, s) := (p.run (I := api) answer).run { replies }
  (a, s.requests.reverse, s.log.reverse)

end ApiScript
end RegistryOperator
