import RegistryOperator.Json.Basic

/-! A document as it is being read. Reading text may stop in the middle, and then the place where it
stopped is part of the result. What is wrong there depends on who reads: whoever wants a value,
whoever wants a word of an enumeration and whoever only skips the value do not look at the same
characters. -/

namespace RegistryOperator

/-- Why a document does not give a value of the type asked for. -/
inductive DecodeError
  /-- It is JSON, but of another shape. -/
  | data
  /-- The text is not JSON. -/
  | malformed
  /-- The text ends too early. -/
  | truncated
deriving DecidableEq, Repr

def DecodeError.word : DecodeError → String
  | .data => "data"
  | .malformed => "syntax"
  | .truncated => "eof"

/-- What is wrong with a value that cannot be read. -/
structure Break where
  /-- The error for whoever wants a value of some type. -/
  value : DecodeError
  /-- The error for whoever wants a word of an enumeration. -/
  word : DecodeError
  /-- The error for whoever skips the value; none if it can be skipped. -/
  skip : Option DecodeError
deriving DecidableEq, Repr

def Break.all (e : DecodeError) : Break := ⟨e, e, some e⟩

/-- The name of a member. -/
inductive NameScan
  | text (s : String)
  /-- It cannot be read: the error for whoever wants a name, and for whoever wants a word. -/
  | broken (name word : DecodeError)
deriving DecidableEq, Repr

/-- A document as far as it was read. -/
inductive Scan
  | null
  | bool (b : Bool)
  | num (n : Number)
  | str (s : String)
  /-- The items read, and what stopped the reading inside the array. -/
  | arr (items : List Scan) (stopped : Option DecodeError)
  /-- The members read, and what stopped the reading inside the object. -/
  | obj (members : List (NameScan × Scan)) (stopped : Option DecodeError)
  /-- What stands where a value should stand cannot be read. -/
  | broken (b : Break)
deriving Repr

namespace Scan

mutual

def ofJson : Json → Scan
  | .null => .null
  | .bool b => .bool b
  | .num n => .num n
  | .str s => .str s
  | .arr items => .arr (ofItems items) none
  | .obj members => .obj (ofMembers members) none

def ofItems : List Json → List Scan
  | [] => []
  | item :: rest => ofJson item :: ofItems rest

def ofMembers : List (String × Json) → List (NameScan × Scan)
  | [] => []
  | (key, value) :: rest => (.text key, ofJson value) :: ofMembers rest

end

def stop : Scan → Option DecodeError
  | .arr _ stopped => stopped
  | .obj _ stopped => stopped
  | .broken b => b.skip
  | _ => none

/-- The error of a value that is not of the shape asked for. -/
def refuse : Scan → DecodeError
  | .broken b => b.value
  | _ => .data

mutual

/-- The document, if it was read to the end. Of members with one name the last counts and takes the
place of the first. -/
def toJson : Scan → Except DecodeError Json
  | .null => .ok .null
  | .bool b => .ok (.bool b)
  | .num n => .ok (.num n)
  | .str s => .ok (.str s)
  | .arr items stopped =>
    match toItems items, stopped with
    | .error e, _ => .error e
    | .ok _, some e => .error e
    | .ok js, none => .ok (.arr js)
  | .obj members stopped =>
    match toMembers members [], stopped with
    | .error e, _ => .error e
    | .ok _, some e => .error e
    | .ok js, none => .ok (.obj js)
  | .broken b => .error b.value

/-- The items of an array that was read to the end. -/
def toItems : List Scan → Except DecodeError (List Json)
  | [] => .ok []
  | item :: rest =>
    match toJson item with
    | .error e => .error e
    | .ok j =>
      match toItems rest with
      | .error e => .error e
      | .ok js => .ok (j :: js)

/-- The members of an object that was read to the end, added to those before them. -/
def toMembers : List (NameScan × Scan) → List (String × Json) →
    Except DecodeError (List (String × Json))
  | [], done => .ok done
  | (.broken e _, _) :: _, _ => .error e
  | (.text key, value) :: rest, done =>
    match toJson value with
    | .error e => .error e
    | .ok j => toMembers rest (Json.put key j done)

end

/-- What stops whoever keeps the value for later. -/
def unkept (scan : Scan) : Option DecodeError :=
  match toJson scan with
  | .error e => some e
  | .ok _ => none

end Scan
end RegistryOperator
