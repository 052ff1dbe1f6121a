/-! The words of YAML text, and what can be wrong with it. -/

namespace RegistryOperator

namespace Yaml

/-- A place in a text, counted from zero. -/
structure Mark where
  line : Nat := 0
  column : Nat := 0
deriving DecidableEq, Repr

def Mark.text? (m : Mark) : Option String :=
  if m = {} then none else some s!"line {m.line + 1} column {m.column + 1}"

/-- What is wrong with a text, where, and in the course of what that began where. -/
structure Fault where
  problem : String
  mark : Mark
  course : Option (String × Mark) := none
deriving DecidableEq, Repr

def Mark.ending (m : Mark) : String := (m.text?.map (" at " ++ ·)).getD ""

def Fault.message (f : Fault) : String :=
  f.problem ++ f.mark.ending ++
    match f.course with
    | none => ""
    | some (course, start) => ", " ++ course ++ if start = f.mark then "" else start.ending

/-- What a word is. -/
inductive TokenKind
  | directive
  | documentStart
  | documentEnd
  | streamEnd
  | blockListStart
  | blockMapStart
  | blockEnd
  | blockEntry
  | flowListStart
  | flowListEnd
  | flowMapStart
  | flowMapEnd
  | flowEntry
  | key
  | value
  | anchor (name : String)
  | alias (name : String)
  | tag (text : String)
  /-- A text. A plain one has no quotes around it and may stand for something else. -/
  | scalar (plain : Bool) (text : String)
deriving DecidableEq, Repr

/-- A word and where it begins. -/
structure Token where
  kind : TokenKind
  mark : Mark
deriving DecidableEq, Repr

def isBreak (c : Char) : Bool :=
  c = '\n' || c = '\r' || c = '\u0085' || c = '\u2028' || c = '\u2029'

def isBlank (c : Char) : Bool := c = ' ' || c = '\t'

/-- Whether a text ends or has a space here. -/
def isSpaceOrEnd (cs : List Char) : Bool := cs.head?.all fun c => isBlank c || isBreak c

/-- Whether a text has a mark of documents here. -/
def isDocumentMark : List Char → Bool
  | '-' :: '-' :: '-' :: rest => isSpaceOrEnd rest
  | '.' :: '.' :: '.' :: rest => isSpaceOrEnd rest
  | _ => false

/-- Whether a character may stand in a text at all. -/
def isAllowed (c : Char) : Bool :=
  let n := c.toNat
  n = 9 || n = 10 || n = 13 || (0x20 ≤ n && n ≤ 0x7e) || n = 0x85 || (0xa0 ≤ n && n ≤ 0xfffd) ||
    0x10000 ≤ n

end Yaml
end RegistryOperator
