import RegistryOperator.Trigger.Funnel

/-! An informer keeps the cache of one kind current and tells every change to the funnel. It is
synced once it has seen a list of all objects. -/

namespace RegistryOperator

/-- The state of an informer. -/
structure Informer (α : Type) [Resource α] where
  cache : Cache α := {}
  synced : Bool := false

namespace Informer

variable {α L : Type} [Resource α] [RateLimiter L Trigger]

def apply (i : Informer α) (event : WatchEvent (Entry α)) : Informer α where
  cache := i.cache.apply event
  synced := match event with
    | .restarted _ => true
    | _ => i.synced

def notify (kind : Kind) (f : Funnel) (i : Informer α) (q : RateLimitedQueue L Trigger)
    (event : WatchEvent (Entry α)) : RateLimitedQueue L Trigger :=
  f.handleAll q (i.cache.notifications kind event)

def report (kind : Kind) (f : Funnel) (i : Informer α) (q : RateLimitedQueue L Trigger)
    (event : WatchEvent (Entry α)) : Log :=
  (match event with
    | .restarted es => [⟨.debug, s!"{f.watched.name} cache relisted with {es.length} objects"⟩]
    | _ => []) ++ f.reportAll q (i.cache.notifications kind event)

def resync (f : Funnel) (i : Informer α) (q : RateLimitedQueue L Trigger) :
    RateLimitedQueue L Trigger :=
  f.handleAll q i.cache.replay

end Informer
end RegistryOperator
