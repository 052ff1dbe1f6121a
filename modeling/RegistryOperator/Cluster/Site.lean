import RegistryOperator.Cluster.Server
import RegistryOperator.Operator.Basic

/-! An operator at work on a server in memory. Time stands still while anything can happen, and then
goes on to the next moment at which something can. The tasks hear of every change before the worker
goes on. -/

namespace RegistryOperator

/-- The operator, its server, and what connects them. -/
structure Site (R : Type) where
  operator : Operator R
  server : Server
  /-- The version up to which a source was told. -/
  told : Source → Nat := fun _ => 0
  /-- The sources whose requests are never answered. -/
  silent : List Source := []
  /-- Whether the pass waits for an answer that never comes. -/
  stuck : Bool := false
  now : Nat := 0
  readings : Readings

namespace Site

variable {R : Type} [Quantity R]

/-- The path of the collection of a source. -/
def collection (w : Site R) (s : Source) : String := s.kind.path (s.ns w.operator.dependents.ns)

def moment (w : Site R) : Duration := .ofMillis w.now

/-- What the server tells a source next, if it answers at all. -/
def answered (w : Site R) (s : Source) : Option (Option WatchSignal × Site R) :=
  let path := w.collection s
  match (w.operator.tasks s).state with
  | .listing =>
    let (r, server) := w.server.list path
    some (r.map .listed, { w with server })
  | .starting version =>
    let position := version.toNat?.getD 0
    some (some (.started (.ok ())),
      { w with told := fun s' => if s' = s then position else w.told s' })
  | .following _ =>
    (w.server.changeAfter path (w.told s)).map fun c =>
      (some (.line (some (Server.lineOf c))),
        { w with told := fun s' => if s' = s then c.version else w.told s' })

/-- The signal that comes next for a source. A request that cannot be sent has its answer at
once. -/
def signal (w : Site R) (s : Source) : Option (Option WatchSignal × Site R) :=
  match (w.operator.tasks s).state.unsent? (s.plan w.operator.dependents.ns).scope with
  | some signal => some (some signal, w)
  | none => w.answered s

/-- Whether the task of a source waits for the server and can hear from it. -/
def isOpen (w : Site R) (s : Source) : Bool :=
  !(w.operator.tasks s).ended && !w.silent.contains s

/-- Whether something can come for a source, now or later. -/
def hasSignal (w : Site R) (s : Source) : Bool := w.isOpen s && (w.signal s).isSome

def hear (w : Site R) (s : Source) : Site R :=
  match w.signal s with
  | none => w
  | some (none, w) => { w with silent := s :: w.silent }
  | some (some signal, w) => { w with operator := w.operator.receive s w.now signal }

/-- The answer of the server to each question of a program; none if it never comes. -/
def serve : (q : ApiQuestion) → OptionT (StateM Server) q.Answer
  | .send r => OptionT.mk fun server => server.send r
  | .report _ => pure ()

/-- Runs a program that talks to the server. -/
def talk {α : Type} (w : Site R) (p : Program api α) : Option α × Site R :=
  let (a, server) := (p.run (I := api) serve).run w.server
  (a, { w with server })

def answer (w : Site R) : (q : PassQuestion) → Option q.Answer × Site R
  | .registry name => (some (w.operator.listers.registry name), w)
  | .deployment name => (some (w.operator.listers.deployment name), w)
  | .apply r => w.talk (w.operator.dependents.apply r.spec)
  | .remove _ => w.talk w.operator.dependents.remove
  | .finalize _ => w.talk w.operator.dependents.finalize
  | .write write r => w.talk (write.send r)
  | .readings => (some w.readings, w)
  | .report _ => (some (), w)

def resume (w : Site R) (q : PassQuestion)
    (next : q.Answer → PassProgram (Except PassError Unit)) : Site R :=
  match w.answer q with
  | (none, w) => { w with stuck := true }
  | (some a, w) => { w with operator := { w.operator with worker := .busy (next a) } }

/-- What the worker does next, if it can do anything. -/
def work (w : Site R) : Option (Site R) :=
  match w.operator.worker with
  | .idle =>
    if w.operator.queue.length = 0 ∧ !w.operator.queue.backlog.shuttingDown then none
    else some { w with operator := w.operator.take }
  | .busy (.done _) => some { w with operator := w.operator.finish w.moment }
  | .busy (.ask q next) => if w.stuck then none else some (w.resume q next)
  | .finished | .crashed => if w.operator.phase matches .closing then
      some { w with operator := w.operator.close }
    else none
  | .absent => none

/-- The sources for which something can come now. -/
def audible (w : Site R) : List Source :=
  Source.all.filter fun s => (w.operator.tasks s).ready ≤ w.now && w.hasSignal s

/-- What happens next at this moment, if anything can. -/
def step (w : Site R) : Option (Site R) :=
  if w.operator.isEnded then none
  else
    match w.audible with
    | s :: _ => some (w.hear s)
    | [] =>
      if (w.operator.phase matches .waiting) && w.operator.isResolved then
        some { w with operator := w.operator.noticeLists }
      else if w.operator.queue.nextDue.any (· ≤ w.now) then
        some { w with operator := w.operator.fire }
      else w.work

/-- The next millisecond at which something can happen, if nothing can now. -/
def nextTime (w : Site R) : Option Nat :=
  ((Source.all.filter w.hasSignal).map fun s => (w.operator.tasks s).ready).foldl
    (fun first t => some ((first.map (min t)).getD t)) w.operator.queue.nextDue

/-- Lets happen what happens until a millisecond, at most `fuel` things. -/
def runFor (limit : Nat) : Nat → Site R → Site R
  | 0, w => w
  | fuel + 1, w =>
    match w.step with
    | some w => runFor limit fuel w
    | none =>
      match if w.operator.isEnded then none else w.nextTime with
      | none => { w with now := limit }
      | some t =>
        if t ≤ limit then runFor limit fuel { w with now := t } else { w with now := limit }

/-- How many things may happen while time moves once. -/
def patience : Nat := 10 ^ (7 : Nat)

def advance (w : Site R) (millis : Nat) : Site R :=
  w.runFor (w.now + millis) patience

end Site
end RegistryOperator
