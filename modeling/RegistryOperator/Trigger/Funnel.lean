import RegistryOperator.Cache.Change
import RegistryOperator.Queue.WorkQueue
import RegistryOperator.Text.Quoted

/-! From changes to triggers. All changes that may matter lead to one and the same trigger, since
every pass looks at everything again; all there is to decide is whether a change may matter. -/

namespace RegistryOperator

/-- The only item of the operator's queue: something changed. -/
inductive Trigger
  | changes
deriving DecidableEq, Repr

namespace Trigger

def word : Trigger → String
  | .changes => "changes"

def text (t : Trigger) : String := Text.quote t.word

def queueName : String := "Changes"

end Trigger

/-- A kind that is watched, by the name it has in messages. -/
structure WatchedKind where
  name : String
  /-- The only object of the kind that matters, if it is one. -/
  onlyName : Option String := none
deriving DecidableEq, Repr

/-- Namespaces shared with others, each with the names of the objects in it that matter. -/
structure SharedNamespaces where
  allowed : List (String × String) := []
deriving DecidableEq, Repr

namespace SharedNamespaces

/-- Whether an object may matter. Outside the shared namespaces every object may. -/
def permits (s : SharedNamespaces) (ns : Option String) (name : String) : Bool :=
  match ns with
  | none => true
  | some ns => !s.allowed.any (·.1 = ns) || s.allowed.contains (ns, name)

end SharedNamespaces

/-- What happened to an object. -/
inductive Happening
  | add
  | update
  | delete
deriving DecidableEq, Repr

def Happening.word : Happening → String
  | .add => "add"
  | .update => "update"
  | .delete => "delete"

/-- Metadata may stand for the whole object, since nothing else decides whether a change matters. -/
instance : Resource Metadata := ⟨id⟩

namespace Notification

variable {α β : Type} [Resource α]

/-- The notification about something made of the objects. -/
def map (f : α → β) : Notification α → Notification β
  | .added new => .added (f new)
  | .updated old new => .updated (f old) (f new)
  | .deleted last => .deleted (f last)
  | .vanished key last => .vanished key (last.map f)

/-- The object that a notification is about and what happened to it. An update to the same version
is none, and neither is the loss of an object that nothing is known of. -/
def subject? : Notification α → Option (α × Happening)
  | .added new => some (new, .add)
  | .updated old new =>
    if (Resource.metadata old).resourceVersion = (Resource.metadata new).resourceVersion then none
    else some (new, .update)
  | .deleted last => some (last, .delete)
  | .vanished _ last => last.map (·, .delete)

def report : Notification α → Log
  | .vanished key none =>
    [⟨.error, s!"error decoding object tombstone '{key}', no last known state"⟩]
  | .vanished key (some _) => [⟨.trace, s!"recovered deleted object '{key}' from tombstone"⟩]
  | _ => []

end Notification

/-- Decides which changes of a watched kind matter. -/
structure Funnel where
  watched : WatchedKind
  shared : SharedNamespaces := {}
deriving DecidableEq, Repr

namespace Funnel

variable {α L : Type} [Resource α] [RateLimiter L Trigger]

def isRelevant (f : Funnel) (m : Metadata) : Bool :=
  (match f.watched.onlyName with
    | some only => m.shownName = only
    | none => true) && f.shared.permits m.ns m.shownName

/-- The object for which a notification leads to a trigger, if it does. -/
def cause? (f : Funnel) (n : Notification α) : Option (Metadata × Happening) :=
  n.subject?.bind fun (x, happening) =>
    if f.isRelevant (Resource.metadata x) then some (Resource.metadata x, happening) else none

/-- Whether a notification leads to a trigger. -/
def posts (f : Funnel) (n : Notification α) : Bool := (f.cause? n).isSome

def handle (f : Funnel) (q : RateLimitedQueue L Trigger) (n : Notification α) :
    RateLimitedQueue L Trigger :=
  if f.posts n then q.add .changes else q

def handleAll (f : Funnel) (q : RateLimitedQueue L Trigger) (ns : List (Notification α)) :
    RateLimitedQueue L Trigger :=
  ns.foldl f.handle q

def report (f : Funnel) (q : RateLimitedQueue L Trigger) (n : Notification α) : Log :=
  n.report ++
    match f.cause? n with
    | none => []
    | some (m, happening) =>
      ⟨.debug, s!"add event to workqueue due to {f.watched.name} {m.info} ({happening.word})"⟩ ::
        q.addReport Trigger.queueName Trigger.text .changes

/-- What is reported about several notifications. -/
def reportAll (f : Funnel) (q : RateLimitedQueue L Trigger) : List (Notification α) → Log
  | [] => []
  | n :: ns => f.report q n ++ f.reportAll (f.handle q n) ns

end Funnel
end RegistryOperator
