import RegistryOperator.Log.Line
import RegistryOperator.Pattern.Parse

/-! Which messages are shown. A filter is a list of rules, each a level for the parts of the program
whose name starts in some way, or for all; of the rules that hold for a part the one with the
longest name counts. After a stroke stands a pattern that shown messages match. -/

namespace RegistryOperator

/-- A rule: up to which level the messages of some parts are shown; none of them if there is no
level. -/
structure LogRule where
  /-- How the names of the parts start; all of them if there is no name. -/
  target : Option String
  level : Option LogLevel
deriving DecidableEq, Repr

/-- A filter. -/
structure LogFilter where
  rules : List LogRule
  /-- What shown messages match. -/
  pattern : Option Pattern := none
deriving DecidableEq, Repr

namespace LogFilter

def levels : List LogLevel := [.error, .warn, .info, .debug, .trace]

/-- The level of a word, in either case of letters; the outer option is none if there is no such
word. -/
def level? (word : String) : Option (Option LogLevel) :=
  let word := word.toUpper
  if word = "OFF" then some none else (levels.find? (·.name = word)).map some

def everything : Option LogLevel := some .trace

/-- A rule, if the text is one. A word that is no level is a name. -/
def rule? (text : String) : Option LogRule :=
  match text.splitOn "=" with
  | [one] =>
    match level? one with
    | some level => some ⟨none, level⟩
    | none => some ⟨some one, everything⟩
  | [name, word] =>
    let word := Text.trim word
    if word = "" then some ⟨some name, everything⟩
    else (level? word).map (⟨some name, ·⟩)
  | _ => none

/-- The rules of a text, without those that are none. -/
def rulesIn (text : String) : List LogRule :=
  (((text.splitOn ",").map Text.trim).filter (· ≠ "")).filterMap rule?

/-- Adds a rule. It takes the place of one for the same name. -/
def put (r : LogRule) : List LogRule → List LogRule
  | [] => [r]
  | first :: rest => if first.target = r.target then r :: rest else first :: put r rest

def standard : LogRule := ⟨none, some .error⟩

/-- Reads a filter. What is no pattern does not count, and of a text with two strokes nothing
does. -/
def ofText (text : String) : LogFilter :=
  let (rules, pattern) := match text.splitOn "/" with
    | [names] => (rulesIn names, none)
    | [names, pattern] => (rulesIn names, Pattern.ofText? pattern)
    | _ => ([], none)
  let rules := rules.foldl (fun rules r => put r rules) []
  ⟨if rules.isEmpty then [standard] else rules, pattern⟩

def info (targets : List String) : LogFilter :=
  ⟨targets.map fun target => ⟨some target, some .info⟩, none⟩

def covers (r : LogRule) (target : String) : Bool :=
  r.target.all fun start => target.startsWith start

def size (r : LogRule) : Nat := (r.target.getD "").utf8ByteSize

/-- The rule that counts for a part: the longest one, and of several the last one. -/
def ruleFor? (f : LogFilter) (target : String) : Option LogRule :=
  (f.rules.filter (covers · target)).foldl
    (fun best r => if best.any fun b => size r < size b then best else some r) none

/-- Whether a message of a part is shown. -/
def allows (f : LogFilter) (target : String) (l : LogLine) : Bool :=
  (match f.ruleFor? target with
    | some ⟨_, some level⟩ => l.level.rank ≤ level.rank
    | _ => false) && f.pattern.all (·.isIn l.message)

end LogFilter
end RegistryOperator
