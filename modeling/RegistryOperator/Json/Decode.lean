import RegistryOperator.Json.Reader

/-! Decoders of typed values. A record is described once, as a `Reading` of its fields, and decoded
from an object or, where its form allows it, from an array with the fields in their order. Of
several problems the one that stands first in the document counts. -/

namespace RegistryOperator

/-- Reads a value of type `α` off a document. -/
abbrev Decoder (α : Type) := Scan → Except DecodeError α

namespace Decode

variable {α β : Type}

def string : Decoder String
  | .str s => .ok s
  | other => .error other.refuse

def bool : Decoder Bool
  | .bool b => .ok b
  | other => .error other.refuse

/-- A whole number from `low` to `high`. A double is never taken, even a whole one. -/
def whole (low high : Int) : Decoder Int
  | .num (.whole n) => if low ≤ n ∧ n ≤ high then .ok n else .error .data
  | other => .error other.refuse

def json : Decoder Json := Scan.toJson

def nullable (d : Decoder α) : Decoder (Option α)
  | .null => .ok none
  | other => (d other).map some

/-- A value that is a function of a decoded one. -/
def via (d : Decoder α) (f : α → Option β) : Decoder β := fun scan =>
  match d scan with
  | .error e => .error e
  | .ok a =>
    match f a with
    | some b => .ok b
    | none => .error .data

def items (d : Decoder α) : List Scan → Except DecodeError (List α)
  | [] => .ok []
  | item :: rest =>
    match d item with
    | .error e => .error e
    | .ok a => (items d rest).map (a :: ·)

def list (d : Decoder α) : Decoder (List α)
  | .arr scans stopped =>
    match items d scans, stopped with
    | .ok _, some e => .error e
    | result, _ => result
  | other => .error other.refuse

/-- The members of an object, the first error winning. -/
def members (d : Decoder α) : List (NameScan × Scan) → Except DecodeError (List (String × α))
  | [] => .ok []
  | (.broken e _, _) :: _ => .error e
  | (.text key, value) :: rest =>
    match d value with
    | .error e => .error e
    | .ok a => (members d rest).map ((key, a) :: ·)

/-- An object whose members are all of one type. -/
def dictionary (d : Decoder α) : Decoder (List (String × α))
  | .obj scans stopped =>
    match members d scans, stopped with
    | .ok _, some e => .error e
    | result, _ => result
  | other => .error other.refuse

/-- A word of an enumeration: a text, or an object whose only member has that name and is null. A
value of another kind is no JSON where a word is wanted. -/
def word (f : String → Option α) : Decoder α
  | .str s => (f s).elim (.error .data) .ok
  | .obj [] stopped => .error (stopped.getD .malformed)
  | .obj ((.broken _ e, _) :: _) _ => .error e
  | .obj ((.text key, value) :: rest) stopped =>
    match f key, value, rest, stopped with
    | none, _, _, _ => .error .data
    | some a, .null, [], none => .ok a
    | some _, .null, [], some e => .error e
    | some _, .null, _ :: _, _ => .error .malformed
    | some _, other, _, _ => .error other.refuse
  | .broken b => .error b.word
  | _ => .error .malformed

end Decode

/-- What is wrong with a record. -/
inductive Problem
  /-- It is seen once all fields are read: one is missing. -/
  | late
  /-- It is seen at a place, counted in members or items. -/
  | wrong (place : Nat) (e : DecodeError)
deriving DecidableEq, Repr

/-- The problem that counts of two: the one that is seen first. -/
def Problem.first : Problem → Problem → Problem
  | .late, p => p
  | p, .late => p
  | .wrong i d, .wrong j e => if i ≤ j then .wrong i d else .wrong j e

/-- The values of a field with their places, in order. -/
abbrev Occurrences := List (Nat × Scan)

/-- A description of the fields of a record: their names in order, and how their values give the
record. The flag says whether the fields stand in an array. -/
structure Reading (α : Type) where
  names : List String
  read : Bool → (String → Occurrences) → Except Problem α

namespace Reading

variable {α β : Type}

/-- A record without fields. -/
protected def pure (a : α) : Reading α := ⟨[], fun _ _ => .ok a⟩

/-- The fields of two descriptions, one after the other. -/
protected def seq (f : Reading (α → β)) (x : Reading α) : Reading β where
  names := f.names ++ x.names
  read inArray fields :=
    match f.read inArray fields, x.read inArray fields with
    | .ok g, .ok a => .ok (g a)
    | .error p, .error q => .error (p.first q)
    | .error p, .ok _ => .error p
    | .ok _, .error q => .error q

instance : Applicative Reading where
  pure := Reading.pure
  seq f x := Reading.seq f (x ())

/-- The last value of a field. All of them have to be of the right form. -/
def last? (d : Decoder α) : Occurrences → Except Problem (Option α)
  | [] => .ok none
  | (place, scan) :: rest =>
    match d scan, last? d rest with
    | .error e, _ => .error (.wrong place e)
    | .ok _, .error p => .error p
    | .ok a, .ok later => .ok (later.or (some a))

/-- A field of which `absent` says what it means that it is not there. -/
def field (name : String) (d : Decoder α) (absent : Bool → Except Problem α) : Reading α where
  names := [name]
  read inArray fields :=
    match last? d (fields name) with
    | .error p => .error p
    | .ok (some a) => .ok a
    | .ok none => absent inArray

def required (name : String) (d : Decoder α) : Reading α := field name d fun _ => .error .late

def defaulted (name : String) (d : Decoder α) (default : α) : Reading α :=
  field name d fun _ => .ok default

def optional (name : String) (d : Decoder α) : Reading (Option α) :=
  defaulted name (Decode.nullable d) none

/-- A field that may be null, and absent only if the fields have names. -/
def nullable (name : String) (d : Decoder α) : Reading (Option α) :=
  field name (Decode.nullable d) fun inArray => if inArray then .error .late else .ok none

/-- The text of a member that is looked at when all is read. There has to be one. It is no field, so
what stops the reading in it is that of any other member. -/
def keptText (name : String) : Reading String where
  names := []
  read _ fields :=
    match fields name with
    | [(_, .str s)] => .ok s
    | _ => .error .late

/-- How the members of an object are taken. -/
structure Habit where
  /-- Whether a field may occur again. -/
  repeats : Bool
  /-- What stops the reading in a member that is no field. -/
  stop : Scan → Option DecodeError

/-- The first problem that is not one of the values of fields, after the members called `seen`. -/
def oddity (habit : Habit) (names : List String) :
    Nat → List String → List (NameScan × Scan) → Option Problem
  | _, _, [] => none
  | place, _, (.broken e _, _) :: _ => some (.wrong place e)
  | place, seen, (.text key, value) :: rest =>
    if names.contains key then
      if !habit.repeats && seen.contains key then some (.wrong place .data)
      else oddity habit names (place + 1) (key :: seen) rest
    else
      match habit.stop value with
      | some e => some (.wrong place e)
      | none => oddity habit names (place + 1) seen rest

/-- The values called `name`, of members from a place on. -/
def occurrences (name : String) : Nat → List (NameScan × Scan) → Occurrences
  | _, [] => []
  | place, (key, value) :: rest =>
    if key = .text name then (place, value) :: occurrences name (place + 1) rest
    else occurrences name (place + 1) rest

/-- The record, once it is known what stopped the reading after all that was read. -/
def conclude (stopped : Option DecodeError) : Except Problem α → Except DecodeError α
  | .error (.wrong _ e) => .error e
  | .error .late => .error (stopped.getD .data)
  | .ok a =>
    match stopped with
    | some e => .error e
    | none => .ok a

/-- A result that may be worse for another problem. -/
def against (other : Option Problem) (result : Except Problem α) : Except Problem α :=
  match other, result with
  | none, _ => result
  | some p, .ok _ => .error p
  | some p, .error q => .error (p.first q)

/-- Decodes a record from the members of an object. -/
def ofMembers (r : Reading α) (habit : Habit) (members : List (NameScan × Scan))
    (stopped : Option DecodeError) : Except DecodeError α :=
  conclude stopped <| against (oddity habit r.names 0 [] members) <|
    r.read false fun name => occurrences name 0 members

/-- Decodes a record from the items of an array. There may not be more than fields. -/
def ofItems (r : Reading α) (items : List Scan) (stopped : Option DecodeError) :
    Except DecodeError α :=
  let surplus :=
    if r.names.length < items.length then some (.wrong r.names.length .malformed) else none
  conclude stopped <| against surplus <|
    r.read true fun name => occurrences name 0 ((r.names.map .text).zip items)

/-- Decodes a record from an object without repeated fields or from an array of its fields. Members
that are not fields are skipped. -/
def decode (r : Reading α) : Decoder α
  | .obj members stopped => ofMembers r ⟨false, Scan.stop⟩ members stopped
  | .arr items stopped => ofItems r items stopped
  | other => .error other.refuse

/-- Decodes a record from an object only; of a repeated field the last value counts. -/
def decodeObject (r : Reading α) : Decoder α
  | .obj members stopped => ofMembers r ⟨true, Scan.stop⟩ members stopped
  | other => .error other.refuse

/-- Decodes a record from an object only, whose other members are kept and not just skipped. -/
def decodeKeeping (r : Reading α) : Decoder α
  | .obj members stopped => ofMembers r ⟨false, Scan.unkept⟩ members stopped
  | other => .error other.refuse

end Reading

/-- Decodes a whole document. It is JSON, so what is wrong with it is its shape. -/
def Decoder.ofJson {α : Type} (d : Decoder α) (j : Json) : Except DecodeError α :=
  (d (Scan.ofJson j)).mapError fun _ => .data

/-- Decodes the document that a text holds. What follows it must be blank. -/
def Decoder.ofText {α : Type} (d : Decoder α) (s : String) : Except DecodeError α :=
  let (scan, rest) := Reader.scan s
  match d scan with
  | .error e => .error e
  | .ok a => if (Reader.skip rest).isEmpty then .ok a else .error .malformed

end RegistryOperator
