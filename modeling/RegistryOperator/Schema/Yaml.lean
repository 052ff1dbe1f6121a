import RegistryOperator.Json.Strings
import RegistryOperator.Schema.CustomResource

/-! Documents in the block style of YAML, and the file with the definitions of the custom
resources. -/

namespace RegistryOperator.Yaml

/-- Words that would not be read back as text if they stood alone. -/
def reserved : List String :=
  ["", "~", "null", "Null", "NULL", "true", "True", "TRUE", "false", "False", "FALSE", "yes", "Yes",
    "YES", "no", "No", "NO", "on", "On", "ON", "off", "Off", "OFF", "y", "Y", "n", "N"]

/-- Whether a text may stand without quotes. -/
def isPlain (s : String) : Bool :=
  let cs := s.toList
  !reserved.contains s &&
    (match cs.head? with
      | some c => c.isAlpha || c = '/' || c = '_' || 0x7f < c.toNat
      | none => false) &&
    cs.getLast? ≠ some ' ' && cs.getLast? ≠ some ':' && cs.all (fun c => 0x20 ≤ c.toNat) &&
    (s.splitOn ": ").length = 1 && (s.splitOn " #").length = 1

/-- A text, in single quotes if it cannot stand alone. -/
def scalarText (s : String) : String :=
  if isPlain s then s else "'" ++ "''".intercalate (s.splitOn "'") ++ "'"

/-- A value that fits on the line of its key. -/
def inline? : Json → Option String
  | .null => some "null"
  | .bool b => some (if b then "true" else "false")
  | .num n => some n.text
  | .str s => some (scalarText s)
  | .arr [] => some "[]"
  | .obj [] => some "\x7b\x7d"
  | _ => none

def indent (lines : List String) : List String := lines.map ("  " ++ ·)

def dash : List String → List String
  | [] => []
  | first :: rest => ("- " ++ first) :: indent rest

mutual

def lines : Json → List String
  | .arr items => itemLines items
  | .obj members => memberLines members
  | other => (inline? other).toList

/-- The lines of the items of an array, each after a dash. -/
def itemLines : List Json → List String
  | [] => []
  | item :: rest =>
    (match inline? item with
      | some text => ["- " ++ text]
      | none => dash (lines item)) ++ itemLines rest

/-- The lines of the members of an object. The items of an array are not indented below their
key. -/
def memberLines : List (String × Json) → List String
  | [] => []
  | (key, value) :: rest =>
    (match inline? value, value with
      | some text, _ => [scalarText key ++ ": " ++ text]
      | none, .arr items => (scalarText key ++ ":") :: itemLines items
      | none, value => (scalarText key ++ ":") :: indent (lines value)) ++ memberLines rest

end

/-- The first line of the file with the definitions. -/
def header : String := "# This file is generated. Do not edit."

/-- The lines of the file with the definitions. -/
def definitions : List String :=
  header :: lines CustomResource.imageRegistry.toJson ++
    "---" :: lines CustomResource.clusterOperator.toJson

end RegistryOperator.Yaml
