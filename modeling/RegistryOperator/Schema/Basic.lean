import RegistryOperator.Json.Basic

/-! Schemas of documents, in the part of OpenAPI that custom resources use, and the document of a
schema with its members in alphabetical order. -/

namespace RegistryOperator

/-- What is said about a value besides its shape. -/
structure SchemaNote where
  description : Option String := none
  nullable : Bool := false
  default : Option Json := none
deriving DecidableEq, Inhabited

/-- A schema. The fields of a record come with a flag that says whether they are required. -/
inductive Schema
  | text (note : SchemaNote)
  /-- A text that is a moment in RFC 3339. -/
  | moment (note : SchemaNote)
  /-- One of some texts. -/
  | choice (note : SchemaNote) (words : List String)
  /-- A whole number of so many bits. -/
  | integer (note : SchemaNote) (bits : Nat)
  | list (note : SchemaNote) (item : Schema)
  | record (note : SchemaNote) (fields : List (String × Bool × Schema))
deriving Inhabited

namespace Schema

/-- The members of a schema's document that come before `type`. -/
def frame (note : SchemaNote) (type : String) (words : Option Json) (format : Option String)
    (items properties required : Option Json) : List (String × Option Json) :=
  [("default", note.default), ("description", note.description.map .str), ("enum", words),
    ("format", format.map .str), ("items", items),
    ("nullable", if note.nullable then some (.bool true) else none), ("properties", properties),
    ("required", required), ("type", some (.str type))]

def requiredNames (fields : List (String × Bool × Schema)) : Option Json :=
  match (fields.filter (·.2.1)).map (·.1) with
  | [] => none
  | names => some (.arr (names.map .str))

mutual

def toJson : Schema → Json
  | .text note => .record (frame note "string" none none none none none)
  | .moment note => .record (frame note "string" none (some "date-time") none none none)
  | .choice note words =>
    .record (frame note "string" (some (.arr (words.map .str))) none none none none)
  | .integer note bits =>
    .record (frame note "integer" none (some ("int" ++ toString bits)) none none none)
  | .list note item => .record (frame note "array" none none (some item.toJson) none none)
  | .record note fields =>
    let properties := match fieldsJson fields with
      | [] => none
      | members => some (.obj members)
    .record (frame note "object" none none none properties (requiredNames fields))

/-- The documents of the fields of a record. -/
def fieldsJson : List (String × Bool × Schema) → List (String × Json)
  | [] => []
  | (name, _, schema) :: rest => (name, schema.toJson) :: fieldsJson rest

end

end Schema
end RegistryOperator
