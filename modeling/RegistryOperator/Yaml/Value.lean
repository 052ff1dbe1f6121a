import RegistryOperator.Config.Number
import RegistryOperator.Decimal.Shortest
import RegistryOperator.Text.Basic
import RegistryOperator.Text.Quoted
import RegistryOperator.Yaml.Node

/-! The values of YAML documents. A plain text may stand for null, a truth value or a number. -/

namespace RegistryOperator

/-- A value. -/
inductive YamlValue
  | null
  | bool (b : Bool)
  | int (n : Int)
  | float (bits : UInt64)
  | text (s : String)
  | list (items : List YamlValue)
  | map (members : List (YamlValue × YamlValue))

namespace YamlValue

/-- Whether a text has digits only after its sign, and one more than needed. -/
def hasLeadingZero (cs : List Char) : Bool :=
  let digits := match cs with
    | '-' :: rest | '+' :: rest => rest
    | cs => cs
  1 < digits.length && digits.head? = some '0' && digits.all Char.isDigit

/-- The value of digits of a radix, if there are any and all of them are. -/
def natOf? (radix : Nat) (cs : List Char) : Option Nat :=
  if cs = [] then none
  else cs.foldlM (fun n c => (Text.hexDigit? c).bind fun d =>
    if d < radix then some (radix * n + d) else none) 0

/-- The whole number of a text without sign. -/
def magnitude? : List Char → Option Nat
  | '0' :: 'x' :: rest => natOf? 16 rest
  | '0' :: 'o' :: rest => natOf? 8 rest
  | '0' :: 'b' :: rest => natOf? 2 rest
  | cs => if hasLeadingZero cs then none else natOf? 10 cs

/-- The whole number of a text, of at most 128 bits. -/
def int? (cs : List Char) : Option Int :=
  let bounded (n : Int) : Option Int :=
    if -(2 ^ (127 : Nat) : Int) ≤ n ∧ n < (2 ^ (128 : Nat) : Int) then some n else none
  match cs with
  | '-' :: rest => (magnitude? rest).bind fun n => bounded (-n)
  | '+' :: rest => (magnitude? rest).bind fun n => bounded n
  | rest => (magnitude? rest).bind fun n => bounded n

def float? (s : String) : Option UInt64 :=
  let unsigned := if s.startsWith "+" then (s.drop 1).toString else s
  if unsigned ∈ [".inf", ".Inf", ".INF"] then some 0x7ff0000000000000
  else if s ∈ ["-.inf", "-.Inf", "-.INF"] then some 0xfff0000000000000
  else if s ∈ [".nan", ".NaN", ".NAN"] then some 0x7ff8000000000000
  else if s.startsWith "+" && (unsigned.startsWith "+" || unsigned.startsWith "-") then none
  else
    match Config.readDecimal unsigned with
    | .ok f => if f.isFinite then some f.toBits else none
    | .error _ => none

def ofPlain (s : String) : YamlValue :=
  if s ∈ ["", "null", "Null", "NULL", "~"] then .null
  else if s ∈ ["true", "True", "TRUE"] then .bool true
  else if s ∈ ["false", "False", "FALSE"] then .bool false
  else
    match int? s.toList, if hasLeadingZero s.toList then none else float? s with
    | some n, _ => .int n
    | none, some bits => .float bits
    | none, none => .text s

def ofScalar (tag : Option String) (plain : Bool) (s : String) : YamlValue :=
  if plain && tag ∉ [some "!", some "!!str"] then ofPlain s else .text s

/-- Whether two keys are the same. Collections are never taken for the same. -/
def sameKey : YamlValue → YamlValue → Bool
  | .null, .null => true
  | .bool a, .bool b => a = b
  | .int a, .int b => a = b
  | .float a, .float b => a = b
  | .text a, .text b => a = b
  | _, _ => false

/-- A key in a message about two of the same. -/
def keyWords : YamlValue → String
  | .null => "with null key"
  | .bool b => s!"with key \x60{b}\x60"
  | .int n => s!"with key {n}"
  | .text s => "with key " ++ Text.quote s
  | _ => "in YAML map"

/-- Where a part is in a document: the steps to it, the last one first. -/
inductive Step
  | item (n : Nat)
  | member (name : String)

/-- The text of a way through a document. -/
def wayText : List Step → String
  | [] => "."
  | .item n :: way => wayText way ++ s!"[{n}]"
  | [.member name] => name
  | .member name :: way => wayText way ++ "." ++ name

/-- What is said of a part of a document. -/
def complaint (way : List Step) (mark : Yaml.Mark) (message : String) : String :=
  (if way.isEmpty then "" else wayText way ++ ": ") ++ message ++ mark.ending

mutual

/-- The value of a part of a document. No map has a key twice. -/
def ofNode : List Step → Yaml.Node → Except String YamlValue
  | _, .scalar _ tag plain s => .ok (ofScalar tag plain s)
  | way, .list _ items => (ofItems way 0 items).map .list
  | way, .map mark members => (ofMembers way mark members []).map .map

/-- The values of the items of a list, counted from `n`. -/
def ofItems : List Step → Nat → List Yaml.Node → Except String (List YamlValue)
  | _, _, [] => .ok []
  | way, n, item :: rest =>
    match ofNode (.item n :: way) item with
    | .error e => .error e
    | .ok v => (ofItems way (n + 1) rest).map (v :: ·)

/-- The values of the members of a map, after those before them. -/
def ofMembers : List Step → Yaml.Mark → List (Yaml.Node × Yaml.Node) →
    List (YamlValue × YamlValue) → Except String (List (YamlValue × YamlValue))
  | _, _, [], done => .ok done
  | way, mark, (key, value) :: rest, done =>
    let name := match key with
      | .scalar _ _ _ s => s
      | _ => "?"
    match ofNode way key with
    | .error e => .error e
    | .ok key =>
      if done.any fun (k, _) => k.sameKey key then
        .error (complaint way mark ("duplicate entry " ++ key.keyWords))
      else
        match ofNode (.member name :: way) value with
        | .error e => .error e
        | .ok value => ofMembers way mark rest (done ++ [(key, value)])

end

def get? (name : String) : YamlValue → Option YamlValue
  | .map members => (members.find? fun (k, _) => k.sameKey (.text name)).map (·.2)
  | _ => none

def text? : YamlValue → Option String
  | .text s => some s
  | _ => none

def items : YamlValue → List YamlValue
  | .list items => items
  | _ => []

/-- A value in a message about what was not expected. -/
def described : YamlValue → String
  | .null => "unit value"
  | .bool b => s!"boolean \x60{b}\x60"
  | .int n => s!"integer \x60{n}\x60"
  | .float bits => s!"floating point \x60{(Decimal.Layout.mk (-400) 400).text bits}\x60"
  | .text s => "string " ++ Text.quote s
  | .list _ => "sequence"
  | .map _ => "map"

end YamlValue
end RegistryOperator
