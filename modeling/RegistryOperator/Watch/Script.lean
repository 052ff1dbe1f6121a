import RegistryOperator.Watch.Task

/-! A task whose server answers from a script: the replies to its lists and the streams are laid
down in advance. When the script has no answer the task waits for ever. Every answer is used up, so
a script comes to an end. -/

namespace RegistryOperator

/-- A stream: its lines, each with the milliseconds between it and what was before it, and whether
the stream ends after them or stays open. -/
structure ScriptedStream where
  lines : List (Nat × Option String) := []
  closes : Bool := true

namespace ScriptedStream

/-- Takes the blank character off that ends a line in some systems. -/
def trimReturn (line : String) : String :=
  if line.endsWith "\r" then (line.dropEnd 1).toString else line

/-- The lines of a text. What follows the last line break is a line unless it is empty. -/
def linesOf (text : String) : List String :=
  let pieces := text.splitOn "\n"
  (if pieces.getLast? = some "" then pieces.dropLast else pieces).map trimReturn

/-- The lines of a text that comes after a wait. -/
def linesAfter (wait : Nat) (text : String) : List (Nat × Option String) :=
  match linesOf text with
  | [] => [(wait, some "")]
  | line :: rest => (wait, some line) :: rest.map fun line => (0, some line)

/-- The stream that a response is. Its status does not matter. -/
def ofResponse (r : Response) : ScriptedStream where
  lines := match r.body with
    | .ok text => (linesOf text).map fun line => (0, some line)
    | .error _ => [(0, none)]

end ScriptedStream

/-- A task and its script. -/
structure ScriptedWatch (α R : Type) [Resource α] where
  plan : WatchPlan α
  task : WatchTask α := {}
  queue : WorkQueue R Trigger
  lists : List Reply
  streams : List (Except ApiFailure ScriptedStream)
  /-- The stream that is open. -/
  current : ScriptedStream := {}
  /-- Whether the task waits for an answer that the script does not have. -/
  waiting : Bool := false
  now : Nat := 0
  requests : List Request := []
  log : Log := []

namespace ScriptedWatch

variable {α R : Type} [Resource α] [Quantity R]

/-- What the script answers next: the signal, its millisecond, and the script after it. -/
def scripted (w : ScriptedWatch α R) : Option (WatchSignal × Nat × ScriptedWatch α R) :=
  match w.task.state with
  | .listing =>
    match w.lists with
    | [] => none
    | r :: lists => some (.listed r, w.task.ready, { w with lists })
  | .starting _ =>
    match w.streams with
    | [] => none
    | .error e :: streams => some (.started (.error e), w.task.ready, { w with streams })
    | .ok current :: streams => some (.started (.ok ()), w.task.ready, { w with streams, current })
  | .following _ =>
    match w.current.lines with
    | (wait, line) :: lines =>
      some (.line line, w.task.ready + wait, { w with current := { w.current with lines } })
    | [] => if w.current.closes then some (.ended, w.task.ready, w) else none

/-- What comes next. A request that cannot be sent has its answer at once. -/
def next (w : ScriptedWatch α R) : Option (WatchSignal × Nat × ScriptedWatch α R) :=
  match w.task.state.unsent? w.plan.scope with
  | some signal => some (signal, w.task.ready, w)
  | none => w.scripted

/-- Notes the request that the task sends now, and whether it waits for ever. -/
def ask (w : ScriptedWatch α R) : ScriptedWatch α R :=
  { w with
    requests := w.requests ++
      ((w.task.state.request w.plan.scope).filter (·.fault?.isNone)).toList.map Request.onArrival
    waiting := w.next.isNone }

/-- Lets happen what happens until a millisecond, at most `fuel` answers. -/
def runFor (limit : Nat) : Nat → ScriptedWatch α R → ScriptedWatch α R
  | 0, w => w
  | fuel + 1, w =>
    if w.task.ended || w.waiting || limit < w.task.ready then w
    else
      match w.next with
      | none => w.ask
      | some (signal, time, rest) =>
        if limit < time then w
        else
          let (task, queue, log) := w.task.receive w.plan w.queue time signal
          runFor limit fuel
            { rest with task, queue, requests := w.ask.requests, log := w.log ++ log }

/-- How many answers the script has left. A stream counts for its beginning, its lines and its
end. -/
def size (w : ScriptedWatch α R) : Nat :=
  w.lists.length + w.current.lines.length + 1 +
    w.streams.foldl (fun n stream =>
      match stream with
      | .ok s => n + s.lines.length + 2
      | .error _ => n + 1) 0

/-- Moves time on. Beside the answers of the script there are those to requests that cannot be sent,
with a pause after each. -/
def advance (w : ScriptedWatch α R) (millis : Nat) : ScriptedWatch α R :=
  let now := w.now + millis
  { w.runFor now (w.size + now / WatchTask.faultPause + 2) with now }

/-- Starts the task. One whose replay has no period fails at once. -/
def start (w : ScriptedWatch α R) (resyncPeriod : Duration) : ScriptedWatch α R :=
  { w with
    log := WatchTask.startReport w.plan
    task := { w.task with ended := resyncPeriod = .zero } }

end ScriptedWatch
end RegistryOperator
