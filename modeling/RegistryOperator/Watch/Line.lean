import RegistryOperator.Api.Failure

/-! The lines of a watch. Each line is a document that says what happened to an object, or how far
the watch is, or that it cannot go on. -/

namespace RegistryOperator

/-- What a line says. -/
inductive WatchLine (α : Type)
  /-- The object was added or changed. -/
  | changed (x : α)
  | removed (x : α)
  /-- Everything up to a version was told. -/
  | bookmark (version : String)
  | refused (refusal : Refusal)

namespace WatchLine

variable {α : Type}

/-- A bookmark: an object that has a version and nothing else. -/
def bookmarkReading : Reading String :=
  (fun version _ _ => version)
    <$> .required "metadata" (.required "resourceVersion" Decode.string : Reading String).decode
    <*> .keptText "apiVersion" <*> .keptText "kind"

/-- The types of lines. -/
inductive Tag
  | added
  | modified
  | deleted
  | bookmark
  | error
deriving DecidableEq, Repr

def Tag.ofName? (name : String) : Option Tag :=
  match name with
  | "ADDED" => some .added
  | "MODIFIED" => some .modified
  | "DELETED" => some .deleted
  | "BOOKMARK" => some .bookmark
  | "ERROR" => some .error
  | _ => none

/-- The object of a line of a given type. -/
def ofTag (d : Decoder α) (tag : Tag) : Decoder (WatchLine α) := fun object =>
  match tag with
  | .added | .modified => (d object).map .changed
  | .deleted => (d object).map .removed
  | .bookmark => (bookmarkReading.decodeKeeping object).map .bookmark
  | .error => (Refusal.reading.decode object).map .refused

/-- The fields of a line: its type and its object. An object in front of the type is kept until the
type is known; then it is JSON, and what is wrong with it is its shape. -/
def reading (d : Decoder α) : Reading (WatchLine α) where
  names := ["type", "object"]
  read _ fields := do
    let tag (place : Nat) (scan : Scan) : Except Problem Tag :=
      (Decode.word Tag.ofName? scan).mapError (.wrong place)
    let keep (place : Nat) (scan : Scan) : Except Problem Unit :=
      scan.unkept.elim (.ok ()) fun e => .error (.wrong place e)
    match fields "type", fields "object" with
    | [], [] => throw .late
    | (i, type) :: _, [] =>
      let _ ← tag i type
      throw .late
    | [], (j, object) :: _ =>
      keep j object
      throw .late
    | (i, type) :: _, (j, object) :: _ =>
      if i < j then
        let tag ← tag i type
        (ofTag d tag object).mapError (.wrong j)
      else
        keep j object
        let tag ← tag i type
        (ofTag d tag object).mapError fun _ => .wrong i .data

/-- Reads a line. One that breaks off is as good as none. A line that is a bare refusal, or that
makes no sense, is a failure of the watch. -/
def ofText (d : Decoder α) (text : String) : Option (Except ApiFailure (WatchLine α)) :=
  match Decoder.ofText (reading d).decode text with
  | .ok line => some (.ok line)
  | .error .truncated => none
  | .error _ =>
    match Decoder.ofText Refusal.reading.decode text with
    | .ok refusal => some (.error (.refused refusal))
    | .error _ => some (.error .unreadable)

end WatchLine
end RegistryOperator
