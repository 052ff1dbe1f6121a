import RegistryOperator.Cache.Informer
import RegistryOperator.Watch.Basic

/-! The task that keeps an informer current. What the watch says goes to the informer; after a fault
the task pauses. An object that has no name, or one of a stream that has no version, ends the task:
it cannot be kept, and nothing could follow it. -/

namespace RegistryOperator

/-- What a task watches and whom it tells. -/
structure WatchPlan (α : Type) where
  scope : WatchScope
  decode : Decoder α
  funnel : Funnel

/-- The state of a task. -/
structure WatchTask (α : Type) [Resource α] where
  informer : Informer α := {}
  state : WatchState := .listing
  /-- The millisecond at which the task goes on. -/
  ready : Nat := 0
  ended : Bool := false

namespace WatchTask

variable {α R : Type} [Resource α] [Quantity R]

/-- How many milliseconds a task pauses after a fault. -/
def faultPause : Nat := 1000

def startReport (p : WatchPlan α) : Log :=
  [⟨.info, s!"starting informer for {p.funnel.watched.name}"⟩]

def faultReport (p : WatchPlan α) (e : WatchFault) : Log :=
  [⟨.warn, s!"watch of {p.funnel.watched.name} failed, retrying: {e.message}"⟩]

/-- The task and the queue after a signal that came at a millisecond, and what is reported. -/
def receive (p : WatchPlan α) (t : WatchTask α) (q : WorkQueue R Trigger) (now : Nat)
    (signal : WatchSignal) : WatchTask α × WorkQueue R Trigger × Log :=
  let (news, state) := t.state.receive p.decode signal
  let t := { t with state, ready := now }
  match news with
  | .none => (t, q, [])
  | .lost => ({ t with ended := true }, q, [])
  | .fault e => ({ t with ready := now + faultPause }, q, faultReport p e)
  | .event e =>
    match e.keyed? with
    | none => ({ t with ended := true }, q, [])
    | some e =>
      ({ t with informer := t.informer.apply e }, t.informer.notify p.scope.kind p.funnel q e,
        t.informer.report p.scope.kind p.funnel q e)

end WatchTask
end RegistryOperator
