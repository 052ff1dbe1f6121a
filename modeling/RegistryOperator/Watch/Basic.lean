import RegistryOperator.Api.Http
import RegistryOperator.Cache.Change
import RegistryOperator.Text.Basic
import RegistryOperator.Trigger.Funnel
import RegistryOperator.Watch.Line

/-! Watching the objects of a kind. A watch starts with a list of all objects and then follows what
happens after the version of that list. Where a stream ends, the next one begins. Only if the server
has forgotten what happened since that version is there another list. Whatever goes wrong is
reported and tried again. -/

namespace RegistryOperator

/-- The part of the cluster that is watched: a kind of objects, in one namespace or all, and perhaps
one object only. -/
structure WatchScope where
  kind : Kind
  ns : Option String := none
  onlyName : Option String := none
deriving DecidableEq, Repr

/-- The condition by which the server picks the only object of a kind that matters. -/
def WatchedKind.fieldSelector (w : WatchedKind) : Option String :=
  w.onlyName.map ("metadata.name=" ++ ·)

namespace WatchScope

def query (s : WatchScope) : List (String × String) :=
  (WatchedKind.fieldSelector ⟨s.kind.name, s.onlyName⟩).toList.map
    fun selector => ("fieldSelector", Form.encode selector)

/-- The request for a list of all objects. -/
def listRequest (s : WatchScope) : Request where
  method := .get
  path := s.kind.path s.ns
  query := s.query

/-- How many seconds the server keeps a stream open. -/
def streamSeconds : Nat := 290

/-- The request for the stream of what happens after a version. -/
def watchRequest (s : WatchScope) (version : String) : Request where
  method := .get
  path := s.kind.path s.ns
  query := [("watch", "true"), ("timeoutSeconds", toString streamSeconds)] ++ s.query ++
    [("allowWatchBookmarks", "true"), ("resourceVersion", Form.encode version)]

end WatchScope

/-- Why a watch is interrupted. -/
inductive WatchFault
  | list (e : ApiFailure)
  | start (e : ApiFailure)
  /-- The server refuses to go on. -/
  | refused (refusal : Refusal)
  | stream (e : ApiFailure)
  /-- A line is not UTF-8. -/
  | notUtf8
  /-- A list without a version cannot be followed. -/
  | noVersion
deriving DecidableEq, Repr

def WatchFault.message : WatchFault → String
  | .list e => "failed to perform initial object list: " ++ e.message
  | .start e => "failed to start watching object: " ++ e.message
  | .refused refusal => "error returned by apiserver during watch: " ++ refusal.brief
  | .stream e => "watch stream failed: " ++ e.message
  | .notUtf8 => "watch stream failed: Error reading events stream: Unable to decode input as UTF8"
  | .noVersion => "no metadata.resourceVersion in watch result (does resource support watch?)"

/-- How far a watch is. -/
inductive WatchState
  /-- It needs a list. -/
  | listing
  /-- It needs a stream of what happens after a version. -/
  | starting (version : String)
  /-- It has a stream. -/
  | following (version : String)
deriving DecidableEq, Repr

/-- What comes from the server. -/
inductive WatchSignal
  | listed (r : Reply)
  /-- The stream begins, or why there is none. -/
  | started (r : Except ApiFailure Unit)
  /-- A line of the stream; none if it is not UTF-8. -/
  | line (text : Option String)
  | ended

/-- What a signal means. -/
inductive WatchNews (α : Type)
  | none
  | event (e : WatchEvent α)
  | fault (e : WatchFault)
  /-- An object of the stream has no version, and nothing can follow it. -/
  | lost

namespace WatchState

variable {α : Type} [Resource α]

def request (s : WatchScope) : WatchState → Option Request
  | .listing => some s.listRequest
  | .starting version => some (s.watchRequest version)
  | .following _ => Option.none

/-- The signal that comes at once if the request cannot be sent. -/
def unsent? (s : WatchScope) (state : WatchState) : Option WatchSignal :=
  (state.request s).bind fun r => r.fault?.map fun e =>
    match state with
    | .listing => .listed (.error e)
    | _ => .started (.error e)

/-- The version and the objects of a list. -/
def listReading (d : Decoder α) : Reading (Option String × List α) :=
  (fun version objects => (version, objects.getD []))
    <$> .defaulted "metadata" ((fun version _ _ _ => version)
        <$> .nullable "resourceVersion" Decode.string <*> .nullable "continue" Decode.string
        <*> .nullable "remainingItemCount" Decode.int64 <*> .nullable "selfLink" Decode.string :
        Reading (Option String)).decodeObject Option.none
    <*> .required "items" (Decode.nullable (Decode.list d))

def onList (d : Decoder α) (r : Reply) : WatchNews α × WatchState :=
  match Reply.object (listReading d).decode r with
  | .error e => (.fault (.list e), .listing)
  | .ok (Option.none, _) => (.fault .noVersion, .listing)
  | .ok (some version, objects) => (.event (.restarted objects), .starting version)

/-- The event of an object, and the state at its version. -/
def onObject (event : α → WatchEvent α) (version : String) (x : α) : WatchNews α × WatchState :=
  match (Resource.metadata x).resourceVersion with
  | Option.none => (.lost, .following version)
  | some next => (.event (event x), .following next)

/-- The code by which the server says that it has forgotten what happened. -/
def goneCode : Nat := 410

def onLine (version : String) : Option (Except ApiFailure (WatchLine α)) → WatchNews α × WatchState
  | Option.none => (.none, .following version)
  | some (.error e) => (.fault (.stream e), .following version)
  | some (.ok (.changed x)) => onObject .applied version x
  | some (.ok (.removed x)) => onObject .deleted version x
  | some (.ok (.bookmark next)) => (.none, .following next)
  | some (.ok (.refused refusal)) =>
    (.fault (.refused refusal), if refusal.code = goneCode then .listing else .following version)

/-- What a signal means, and the state after it. A stream that is not text is read no further. A
signal that was not waited for means nothing. -/
def receive (d : Decoder α) : WatchState → WatchSignal → WatchNews α × WatchState
  | .listing, .listed r => onList d r
  | .starting version, .started (.ok ()) => (.none, .following version)
  | .starting version, .started (.error e) => (.fault (.start e), .starting version)
  | .following version, .line (some text) => onLine version (WatchLine.ofText d text)
  | .following version, .line Option.none => (.fault .notUtf8, .starting version)
  | .following version, .ended => (.none, .starting version)
  | state, _ => (.none, state)

end WatchState
end RegistryOperator
