import RegistryOperator.Pattern.Basic
import RegistryOperator.Text.Basic

/-! The text of patterns. Beside literals there are classes of characters in brackets, conditions on
places, groups, alternatives and repetitions. Letters in the opening of a group set how what follows
is read. What would need a table of characters (words, digits and cases of letters beyond the basic
ones) is refused unless the pattern restricts itself to basic characters. -/

namespace RegistryOperator.Pattern

/-- How a part of a pattern is read. -/
structure Style where
  ignoreCase : Bool := false
  multiLine : Bool := false
  dotTakesLineEnd : Bool := false
  wide : Bool := true
  anyLineEnd : Bool := false
  spaced : Bool := false
deriving DecidableEq, Repr

/-- What is left of the text, how it is read, and the names of groups so far. -/
structure Cursor where
  rest : List Char
  style : Style := {}
  names : List String := []

/-- A step of reading. It fails where the text is no pattern. -/
abbrev Parse (α : Type) := StateT Cursor Option α

/-- Drops white space and comments that go to the end of a line. -/
def skipComments (inComment : Bool) : List Char → List Char
  | [] => []
  | c :: cs =>
    if inComment then skipComments (c ≠ '\n') cs
    else if c = '#' then skipComments true cs
    else if Text.isSpace c then skipComments false cs
    else c :: cs

def Style.skip (style : Style) (cs : List Char) : List Char :=
  if style.spaced then skipComments false cs else cs

namespace Parse

def peek : Parse (Option Char) := return (← get).rest.head?

def bump : Parse Unit := modify fun c => { c with rest := c.rest.drop 1 }

def space : Parse Unit := modify fun c => { c with rest := c.style.skip c.rest }

def next : Parse Unit := do
  bump
  space

def expect (expected : Char) : Parse Unit := do
  guard ((← peek) = some expected)
  bump

def accept (c : Char) : Parse Bool := do
  let found := (← peek) = some c
  if found then bump
  return found

def style : Parse Style := return (← get).style

/-! Escapes -/

/-- What stands for one thing: a character, a set of them or a condition. -/
inductive Atom
  | char (c : Char)
  | set (c : CharClass)
  | edge (e : Edge)

/-- Takes a fixed number of hexadecimal digits. -/
def hexDigits : Nat → Parse (List Char)
  | 0 => return []
  | n + 1 => do
    let some c ← peek | failure
    guard (Text.hexDigit? c).isSome
    if n = 0 then bump else next
    return c :: (← hexDigits n)

/-- Takes hexadecimal digits up to a brace. -/
def hexUpToBrace : Nat → Parse (List Char)
  | 0 => failure
  | n + 1 => do
    let some c ← peek | failure
    next
    if c = '\x7d' then return []
    guard (Text.hexDigit? c).isSome
    return c :: (← hexUpToBrace n)

def charOf (digits : List Char) : Parse Char := do
  let some n := Text.hexValue? digits | failure
  guard (n.isValidChar ∧ digits ≠ [])
  return Char.ofNat n

/-- Takes the number of a character, after the letter that says how many digits it has. A short one
stands for a byte if only basic characters do. -/
def numbered (width : Nat) : Parse Char := do
  next
  if (← peek) = some '\x7b' then
    next
    charOf (← hexUpToBrace ((← get).rest.length + 1))
  else
    let c ← charOf (← hexDigits width)
    space
    guard ((← style).wide ∨ width ≠ 2 ∨ c.toNat < 128)
    return c

/-- The characters that stand for themselves after a backslash. -/
def isEscapable (c : Char) : Bool :=
  c.toNat < 128 && !c.isAlphanum && c ≠ '<' && c ≠ '>'

/-- The character of a letter after a backslash. -/
def control? : Char → Option Char
  | 'a' => some '\x07'
  | 'f' => some '\x0c'
  | 't' => some '\t'
  | 'n' => some '\n'
  | 'r' => some '\r'
  | 'v' => some '\x0b'
  | _ => none

/-- The set of a letter after a backslash. -/
def set? : Char → Option CharClass
  | 'd' => some .digits
  | 's' => some .spaces
  | 'w' => some .wordChars
  | _ => none

/-- Takes what may stand in braces after a word edge. -/
def wordEdge : Parse Edge := do
  let cursor ← get
  let inName (c : Char) : Bool := c.isAlpha || c = '-'
  match cursor.rest with
  | '\x7b' :: rest =>
    let rest := cursor.style.skip rest
    match rest with
    | [] => failure
    | c :: _ =>
      if inName c then
        let kept := if cursor.style.spaced then rest.filter (!Text.isSpace ·) else rest
        let name := kept.takeWhile inName
        set { cursor with rest := kept.drop name.length }
        expect '\x7d'
        match String.ofList name with
        | "start" => return .wordStart
        | "end" => return .wordEnd
        | "start-half" => return .noWordBefore
        | "end-half" => return .noWordAfter
        | _ => failure
      else return .wordEdge
  | _ => return .wordEdge

/-- Takes an escape. Words and sets of characters are those of basic characters. -/
def escape : Parse Atom := do
  bump
  let some c ← peek | failure
  let basic : Parse Unit := do guard (!(← style).wide)
  match c with
  | 'x' => return .char (← numbered 2)
  | 'u' => return .char (← numbered 4)
  | 'U' => return .char (← numbered 8)
  | _ =>
    bump
    if let some set := set? c then
      basic
      return .set set
    if let some c := control? c then return .char c
    match c with
    | 'A' => return .edge .textStart
    | 'z' => return .edge .textEnd
    | 'b' =>
      basic
      return .edge (← wordEdge)
    | 'B' =>
      basic
      return .edge .notWordEdge
    | '<' =>
      basic
      return .edge .wordStart
    | '>' =>
      basic
      return .edge .wordEnd
    | c =>
      guard (isEscapable c)
      return .char c

/-! Classes in brackets -/

/-- How two sets in brackets are joined. -/
inductive Joint
  | inter
  | diff
  | eitherOf

def join (pending : Option (Joint × CharClass)) (c : CharClass) : CharClass :=
  match pending with
  | none => c
  | some (.inter, a) => .inter a c
  | some (.diff, a) => .diff a c
  | some (.eitherOf, a) => .eitherOf a c

def setOf : Atom → Parse CharClass
  | .char c => do
    guard ((← style).wide ∨ c.toNat < 128)
    return .single c
  | .set c => return c
  | .edge _ => failure

def classAtom : Parse Atom := do
  let some c ← peek | failure
  if c = '\\' then escape
  else
    bump
    return .char c

/-- Takes an atom in brackets, or a range. -/
def classRange : Parse CharClass := do
  let low ← classAtom
  space
  let cursor ← get
  match cursor.rest with
  | [] => failure
  | '-' :: rest =>
    let after := (cursor.style.skip rest).head?
    if after = some ']' ∨ after = some '-' then setOf low
    else
      next
      let high ← classAtom
      match low, high with
      | .char a, .char b =>
        guard (a ≤ b)
        let _ ← setOf low
        let _ ← setOf high
        return .range a.toNat b.toNat
      | _, _ => failure
  | _ => setOf low

/-- The named set that a text starts with, and what follows it. -/
def namedSet? (cs : List Char) : Option (CharClass × List Char) :=
  match cs with
  | '[' :: ':' :: cs =>
    let (negated, cs) := match cs with
      | '^' :: cs => (true, cs)
      | cs => (false, cs)
    let name := cs.takeWhile (· ≠ ':')
    match cs.drop name.length, CharClass.ofName? (String.ofList name) with
    | ':' :: ']' :: rest, some c => some (if negated then .complement c else c, rest)
    | _, _ => none
  | _ => none

/-- Takes hyphens that stand for themselves at the start of a class. -/
def hyphens : Nat → CharClass → Parse CharClass
  | 0, c => return c
  | n + 1, c => do
    if (← peek) = some '-' then
      next
      hyphens n (.union c (.single '-'))
    else return c

mutual

def bracket : Nat → Parse CharClass
  | 0 => failure
  | n + 1 => do
    next
    let negated := (← peek) = some '^'
    if negated then next
    let mut start ← hyphens (← get).rest.length .empty
    if start = .empty ∧ (← peek) = some ']' then
      next
      start := .single ']'
    let c ← classBody n none start
    let style ← style
    guard (!(style.ignoreCase && style.wide))
    let c := if style.ignoreCase then .bothCases c else c
    let c := if negated then .complement c else c
    guard (style.wide ∨ c.isBasic)
    return c

/-- Takes what stands in brackets up to the closing one. -/
def classBody : Nat → Option (Joint × CharClass) → CharClass → Parse CharClass
  | 0, _, _ => failure
  | n + 1, pending, c => do
    space
    let cursor ← get
    let joined (j : Joint) (rest : List Char) : Parse CharClass := do
      set { cursor with rest }
      let fold := if cursor.style.ignoreCase then CharClass.bothCases else id
      classBody n (some (j, fold (join pending (fold c)))) .empty
    match cursor.rest with
    | [] => failure
    | ']' :: _ =>
      bump
      let fold := if cursor.style.ignoreCase then CharClass.bothCases else id
      return join pending (fold c)
    | '&' :: '&' :: rest => joined .inter rest
    | '-' :: '-' :: rest => joined .diff rest
    | '~' :: '~' :: rest => joined .eitherOf rest
    | '[' :: _ =>
      match namedSet? cursor.rest with
      | some (named, rest) =>
        set { cursor with rest }
        classBody n pending (.union c named)
      | none => classBody n pending (.union c (← bracket n))
    | _ => classBody n pending (.union c (← classRange))

end

/-! Groups and repetitions -/

/-- The style after a letter is set or unset. -/
def Style.set? (style : Style) (value : Bool) : Char → Option Style
  | 'i' => some { style with ignoreCase := value }
  | 'm' => some { style with multiLine := value }
  | 's' => some { style with dotTakesLineEnd := value }
  | 'u' => some { style with wide := value }
  | 'R' => some { style with anyLineEnd := value }
  | 'x' => some { style with spaced := value }
  -- whether a match is as long as possible makes no difference to whether there is one
  | 'U' => some style
  | _ => none

/-- Takes the letters in the opening of a group. None may come twice, and a hyphen unsets those
after it. -/
def letters : Nat → List Char → Bool → Style → Parse (Style × List Char)
  | 0, _, _, _ => failure
  | n + 1, seen, value, style => do
    let some c ← peek | failure
    if c = ':' ∨ c = ')' then
      guard (seen.head? ≠ some '-')
      return (style, seen)
    guard (c ∉ seen)
    bump
    if c = '-' then letters n (c :: seen) false style
    else
      let some style := Style.set? style value c | failure
      letters n (c :: seen) value style

def groupName : Parse Unit := do
  let cursor ← get
  let name := cursor.rest.takeWhile (· ≠ '>')
  let isStart (c : Char) : Bool := c = '_' || c.isAlpha || 128 ≤ c.toNat
  let isPart (c : Char) : Bool := isStart c || c.isDigit || c = '.' || c = '[' || c = ']'
  guard (name.head?.any isStart ∧ name.all isPart ∧ String.ofList name ∉ cursor.names)
  set { cursor with
    rest := cursor.rest.drop name.length
    names := String.ofList name :: cursor.names }
  expect '>'

/-- How a group opens. -/
inductive Opening
  /-- Letters that hold for the rest of the group around them. -/
  | letters (style : Style)
  /-- The parts of the group are to come, read in a style. -/
  | group (style : Style)

def opening : Parse Opening := do
  next
  let cursor ← get
  let named (rest : List Char) : Parse Opening := do
    set { cursor with rest }
    groupName
    return .group cursor.style
  match cursor.rest with
  | '?' :: 'P' :: '<' :: rest => named rest
  | '?' :: '<' :: rest => named rest
  | '?' :: rest =>
    set { cursor with rest }
    let (style, seen) ← letters (rest.length + 1) [] true cursor.style
    if ← accept ')' then
      guard (seen ≠ [])
      return .letters style
    else
      expect ':'
      return .group style
  | _ => return .group cursor.style

/-- Takes a decimal number below `2 ^ 32`, with blanks around it. -/
def decimal : Parse Nat := do
  let cursor ← get
  let rest := Text.skipSpace cursor.rest
  let inNumber (c : Char) : Bool := c.isDigit || (cursor.style.spaced && Text.isSpace c)
  let digits := (rest.takeWhile inNumber).filter Char.isDigit
  set { cursor with rest := Text.skipSpace (rest.dropWhile inNumber) }
  space
  let n := digits.foldl (fun n c => 10 * n + (c.toNat - '0'.toNat)) 0
  guard (digits ≠ [] ∧ rest.head?.any Char.isDigit ∧ n < 2 ^ (32 : Nat))
  return n

/-- Takes the bounds of a repetition in braces. -/
def bounds : Parse (Nat × Option Nat) := do
  next
  let least ← decimal
  let most ←
    if ← accept ',' then
      space
      if (← peek) = some '\x7d' then pure none else some <$> decimal
    else pure (some least)
  guard (most.all fun most => least ≤ most)
  expect '\x7d'
  space
  return (least, most)

/-- A character as it is read in a style. -/
def literal (c : Char) : Parse Pattern := do
  let style ← style
  guard (!(style.ignoreCase && style.wide))
  return .one (if style.ignoreCase then .bothCases (.single c) else .single c)

/-- Takes an escape, a condition, a dot or a character. -/
def primitive (c : Char) : Parse Pattern := do
  let style ← style
  match c with
  | '\\' =>
    match ← escape with
    | .char c => literal c
    | .set c => return .one c
    | .edge e => return .edge e
  | '.' =>
    bump
    guard style.wide
    return .one (
      if style.dotTakesLineEnd then .any
      else if style.anyLineEnd then .complement (.union (.single '\n') (.single '\r'))
      else .complement (.single '\n'))
  | '^' =>
    bump
    return .edge (
      if !style.multiLine then .textStart
      else if style.anyLineEnd then .anyLineStart
      else .lineStart)
  | '$' =>
    bump
    return .edge (
      if !style.multiLine then .textEnd
      else if style.anyLineEnd then .anyLineEnd
      else .lineEnd)
  | c =>
    bump
    literal c

/-- The pattern of parts one after the other, the last one first. Letters are no part. -/
def inSequence (parts : List (Option Pattern)) : Pattern :=
  parts.foldl (fun q p => p.elim q fun p => if q = .nothing then p else .seq p q) .nothing

mutual

/-- Takes alternatives up to the end of the group or of the text. -/
def alternatives : Nat → Parse Pattern
  | 0 => failure
  | n + 1 => do
    let p ← sequence n []
    if ← accept '|' then return .alt p (← alternatives n) else return p

/-- Takes parts one after the other, after those that were read, the last one first. -/
def sequence : Nat → List (Option Pattern) → Parse Pattern
  | 0, _ => failure
  | n + 1, parts => do
    space
    let some c ← peek | return inSequence parts
    -- a repetition takes the part before it
    let repeated (least : Nat) (most : Option Nat) : Parse Pattern := do
      let _ ← accept '?'
      match parts with
      | some p :: parts => sequence n (some (.many p least most) :: parts)
      | _ => failure
    match c with
    | ')' | '|' => return inSequence parts
    | '(' =>
      let outer ← style
      match ← opening with
      | .letters style =>
        modify fun cursor => { cursor with style }
        sequence n (none :: parts)
      | .group style =>
        modify fun cursor => { cursor with style }
        let p ← alternatives n
        expect ')'
        modify fun cursor => { cursor with style := outer }
        sequence n (some p :: parts)
    | '[' =>
      let c ← bracket n
      sequence n (some (.one c) :: parts)
    | '?' =>
      bump
      repeated 0 (some 1)
    | '*' =>
      bump
      repeated 0 none
    | '+' =>
      bump
      repeated 1 none
    | '\x7b' =>
      let (least, most) ← bounds
      repeated least most
    | c =>
      let p ← primitive c
      sequence n (some p :: parts)

end

end Parse

/-- Patterns that take more memory than this are refused. -/
def maxWeight : Nat := 10 * 2 ^ (20 : Nat)

def ofText? (text : String) : Option Pattern := do
  let (p, cursor) ← (Parse.alternatives (4 * text.length + 8)).run { rest := text.toList }
  if cursor.rest.isEmpty ∧ p.weight ≤ maxWeight then some p else none

end RegistryOperator.Pattern
