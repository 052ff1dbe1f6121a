import RegistryOperator.Resource.Metadata
import RegistryOperator.Text.Basic

/-! Shapes of the objects that the cluster keeps. Of most objects the operator needs little, but an
object is read only if all of it has its shape. What is read is the document that the shape keeps:
unknown members are dropped, and members that have to be there are filled in. -/

namespace RegistryOperator

/-- The shape of a document. The fields of a record come with a flag that says whether they have to
be there. -/
inductive Shape
  | text
  /-- A text that stands for bytes. -/
  | bytes
  | bool
  | int32
  | int64
  /-- A whole number of 32 bits, or a text. -/
  | intOrText
  | time
  /-- The metadata of an object. -/
  | metadata
  | list (item : Shape)
  /-- An object with any names. -/
  | map (value : Shape)
  | record (fields : List (String × Bool × Shape))

namespace Shape

abbrev Field := String × Bool × Shape

def may (shape : Shape) (names : List String) : List Field := names.map (·, false, shape)

/-- Fields that are filled in if they are absent or null. -/
def must (shape : Shape) (names : List String) : List Field := names.map (·, true, shape)

def texts : Shape := .list .text

def textMap : Shape := .map .text

mutual

/-- What is filled in for a value of a shape. -/
def filling : Shape → Json
  | .text | .bytes => .str ""
  | .bool => .bool false
  | .int32 | .int64 | .intOrText => .int 0
  | .time => .str "1970-01-01T00:00:00Z"
  | .metadata | .map _ => .obj []
  | .list _ => .arr []
  | .record fields => .obj (fillings fields)

/-- What is filled in for the fields that have to be there. -/
def fillings : List Field → List (String × Json)
  | [] => []
  | (name, needed, shape) :: rest =>
    if needed then (name, filling shape) :: fillings rest else fillings rest

end

def readBytes : Decoder Json :=
  Decode.via Decode.string fun s => if Text.isBase64 s then some (.str s) else none

/-- A whole number of 32 bits, or a text. -/
def readIntOrText : Decoder Json
  | .str s => .ok (.str s)
  | other => (Decode.int32 other).map .int

/-- Members in the order of their names; of those with one name the last counts. -/
def sortedObject (members : List (String × Json)) : Json :=
  .obj ((members.foldl (fun done (key, value) => Json.put key value done) []).mergeSort
    fun a b => decide (a.1 ≤ b.1))

mutual

def read : Shape → Decoder Json
  | .text => fun scan => (Decode.string scan).map .str
  | .bytes => readBytes
  | .bool => fun scan => (Decode.bool scan).map .bool
  | .int32 => fun scan => (Decode.int32 scan).map .int
  | .int64 => fun scan => (Decode.int64 scan).map .int
  | .intOrText => readIntOrText
  | .time => fun scan => (Timestamp.decode scan).map fun t => .str t.textSeconds
  | .metadata => fun scan => (Metadata.decode scan).map Metadata.toJson
  | .list item => fun scan => (Decode.list (read item) scan).map .arr
  | .map value => fun scan => (Decode.dictionary (read value) scan).map sortedObject
  | .record fields => fun scan => ((reading fields).decodeObject scan).map .record

def reading : List Field → Reading (List (String × Option Json))
  | [] => pure []
  | (name, needed, shape) :: rest =>
    (fun value values =>
        (name, if needed then some (value.getD (filling shape)) else value) :: values)
      <$> .nullable name (read shape) <*> reading rest

end

/-- Reads an object and drops what it holds. -/
def check (fields : List Field) : Reading Unit := (fun _ => ()) <$> reading fields

end Shape
end RegistryOperator
