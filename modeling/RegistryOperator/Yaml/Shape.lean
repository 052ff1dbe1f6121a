import RegistryOperator.Yaml.Value

/-! Shapes of YAML documents. A document of another shape is refused with the first reason there is, in
the order of its text. -/

namespace RegistryOperator

/-- The shape of a part of a document. -/
inductive YamlShape
  | any
  | text
  | bool
  /-- A part that may be null, and need not be there. -/
  | optional (shape : YamlShape)
  | list (item : YamlShape)
  /-- A map with any names. -/
  | map (value : YamlShape)
  /-- A map with names that mean something. Others may be there too. -/
  | record (name : String) (fields : List (String × YamlShape))

namespace YamlShape

def expectation : YamlShape → String
  | .any => "any value"
  | .text => "a string"
  | .bool => "a boolean"
  | .optional _ => "option"
  | .list _ => "a sequence"
  | .map _ => "a map"
  | .record name _ => "struct " ++ name

/-- What is said of a value that is not what is expected. -/
def mismatch (v : YamlValue) (expected : String) : String :=
  "invalid type: " ++ v.described ++ ", expected " ++ expected

def nameOf (expected : String) : YamlValue → Except String String
  | .text name => .ok name
  | other => .error (mismatch other expected)

def mayBeAbsent : YamlShape → Bool
  | .optional _ => true
  | _ => false

/-- All fields that have to be there are. -/
def checkPresence (fields : List (String × YamlShape)) (v : YamlValue) : Except String Unit :=
  match fields.find? fun (name, shape) => !shape.mayBeAbsent && (v.get? name).isNone with
  | some (name, _) => .error s!"missing field \x60{name}\x60"
  | none => .ok ()

mutual

/-- Checks a part of a document. Null is an empty list or map where one is expected. -/
def check : YamlShape → YamlValue → Except String Unit
  | .any, _ => .ok ()
  | .text, .text _ => .ok ()
  | .bool, .bool _ => .ok ()
  | .optional _, .null => .ok ()
  | .optional shape, v => check shape v
  | .list _, .null => .ok ()
  | .list item, .list items => items.forM fun v => check item v
  | .map _, .null => .ok ()
  | .map value, .map members =>
    members.forM fun (k, v) => do
      let _ ← nameOf "a string" k
      check value v
  | .record _ fields, .null => checkPresence fields .null
  | .record _ fields, .map members => do
    members.forM fun (k, v) => do checkField fields (← nameOf "field identifier" k) v
    checkPresence fields (.map members)
  | shape, v => .error (mismatch v shape.expectation)

def checkField : List (String × YamlShape) → String → YamlValue → Except String Unit
  | [], _, _ => .ok ()
  | (name, shape) :: rest, key, v => if name = key then check shape v else checkField rest key v

end

end YamlShape
end RegistryOperator
