import RegistryOperator.Backoff.Limiter
import RegistryOperator.Log.Line
import RegistryOperator.Queue.Backlog

/-! The work queue: a backlog, items that will be added to it later, and a limiter that says how
much later for items that failed. Time passes in whole milliseconds. -/

namespace RegistryOperator

/-- An item that will be added. -/
structure Delayed (α : Type) where
  /-- The millisecond at which it is added. -/
  due : Nat
  item : α
deriving DecidableEq, Repr

/-- A work queue with a limiter of type `L`. -/
structure RateLimitedQueue (L α : Type) where
  backlog : Backlog α := {}
  /-- The items to come, those asked for first standing first. -/
  delayed : List (Delayed α) := []
  limiter : L

/-- A work queue with one of the limiters of this library, which calculates in `R`. -/
abbrev WorkQueue (R α : Type) := RateLimitedQueue (Limiter R α) α

namespace RateLimitedQueue

variable {L α : Type} [RateLimiter L α] [DecidableEq α]

/-- The longest wait that a clock can count, in seconds. -/
def longestWait : Nat := 2 ^ (63 : Nat)

/-- The wait in place of those that cannot be counted: thirty years. -/
def farFuture : Duration := .ofSeconds (30 * 365 * 86400)

/-- The millisecond at which a wait that starts at `now` is over. -/
def dueAfter (now wait : Duration) : Nat :=
  let wait := if wait.nanos < longestWait * 10 ^ (9 : Nat) then wait else farFuture
  Duration.ceilMillis ⟨now.nanos + wait.nanos⟩

def add (q : RateLimitedQueue L α) (x : α) : RateLimitedQueue L α :=
  { q with backlog := q.backlog.add x }

def addAfter (q : RateLimitedQueue L α) (now : Duration) (x : α) (wait : Duration) :
    RateLimitedQueue L α :=
  if q.backlog.shuttingDown then q
  else if wait = .zero then q.add x
  else { q with delayed := q.delayed ++ [⟨dueAfter now wait, x⟩] }

def charge (q : RateLimitedQueue L α) (now : Duration) (x : α) :
    Option Duration × RateLimitedQueue L α :=
  let (wait, limiter) := RateLimiter.charge now x q.limiter
  (wait, { q with limiter })

/-- Adds an item that failed as late as the limiter says. If the limiter has no delay the item is
not added, and whoever asked fails. -/
def addRateLimited (q : RateLimitedQueue L α) (now : Duration) (x : α) :
    Option Duration × RateLimitedQueue L α :=
  match q.charge now x with
  | (none, q) => (none, q)
  | (some wait, q) => (some wait, q.addAfter now x wait)

def forget (q : RateLimitedQueue L α) (x : α) : RateLimitedQueue L α :=
  { q with limiter := RateLimiter.forget x q.limiter }

def requeues (q : RateLimitedQueue L α) (x : α) : Nat := RateLimiter.requeues x q.limiter

def take (q : RateLimitedQueue L α) : Backlog.Handout α × RateLimitedQueue L α :=
  let (handout, backlog) := q.backlog.take
  (handout, { q with backlog })

def done (q : RateLimitedQueue L α) (x : α) : RateLimitedQueue L α :=
  { q with backlog := q.backlog.done x }

/-- Shuts down. Items to come are kept, but find the backlog closed. -/
def shutDown (q : RateLimitedQueue L α) : RateLimitedQueue L α :=
  { q with backlog := q.backlog.shutDown }

def length (q : RateLimitedQueue L α) : Nat := q.backlog.ready.length

/-- The earliest of the items to come: of those due first, the one asked for first. -/
def earliest : List (Delayed α) → Option (Delayed α)
  | [] => none
  | d :: rest =>
    match earliest rest with
    | none => some d
    | some e => if d.due ≤ e.due then some d else some e

/-- The millisecond at which the next item comes. -/
def nextDue (q : RateLimitedQueue L α) : Option Nat := (earliest q.delayed).map (·.due)

def release (q : RateLimitedQueue L α) (d : Delayed α) : RateLimitedQueue L α :=
  { q with delayed := q.delayed.erase d }.add d.item

def fire (q : RateLimitedQueue L α) : RateLimitedQueue L α :=
  match earliest q.delayed with
  | none => q
  | some d => q.release d

/-- Adds the items that come until a millisecond, at most `fuel` of them. -/
def fireFor (limit : Nat) : Nat → RateLimitedQueue L α → RateLimitedQueue L α
  | 0, q => q
  | fuel + 1, q => if q.nextDue.any (· ≤ limit) then fireFor limit fuel q.fire else q

/-- Adds the items that come until a moment. -/
def fireUntil (q : RateLimitedQueue L α) (now : Duration) : RateLimitedQueue L α :=
  fireFor now.ceilMillis q.delayed.length q

/-! What is reported about these events, for items with a text. -/

def addReport (name : String) (text : α → String) (q : RateLimitedQueue L α) (x : α) : Log :=
  if q.backlog.admits x ∧ x ∈ q.backlog.processing then
    [⟨.trace, s!"{name}: {text x} is being processed, it will be queued again when done"⟩]
  else []

/-- The report of adding an item after a wait. -/
def addAfterReport (name : String) (text : α → String) (q : RateLimitedQueue L α) (x : α)
    (wait : Duration) : Log :=
  if wait = .zero then q.addReport name text x else []

/-- The report of adding an item that failed. -/
def addRateLimitedReport (name : String) (text : α → String) (q : RateLimitedQueue L α)
    (now : Duration) (x : α) : Log :=
  match q.charge now x with
  | (none, _) => []
  | (some wait, q) =>
    ⟨.trace, s!"{name}: requeuing {text x} in {wait.text}"⟩ :: q.addAfterReport name text x wait

/-- The report of adding the item that comes next. -/
def fireReport (name : String) (text : α → String) (q : RateLimitedQueue L α) : Log :=
  match earliest q.delayed with
  | none => []
  | some d => q.addReport name text d.item

/-- The report of adding the items that come until a millisecond, at most `fuel` of them. -/
def fireForReport (name : String) (text : α → String) (limit : Nat) :
    Nat → RateLimitedQueue L α → Log
  | 0, _ => []
  | fuel + 1, q =>
    if q.nextDue.any (· ≤ limit) then
      q.fireReport name text ++ fireForReport name text limit fuel q.fire
    else []

/-- The report of adding the items that come until a moment. -/
def fireUntilReport (name : String) (text : α → String) (q : RateLimitedQueue L α)
    (now : Duration) : Log :=
  fireForReport name text now.ceilMillis q.delayed.length q

end RateLimitedQueue
end RegistryOperator
