import RegistryOperator.Text.Basic
import RegistryOperator.Yaml.Token

/-! From YAML text to its words. The indentation of lines opens and closes collections; a text on
one line turns out to be a key when a colon follows it, and then words are put in before it. -/

namespace RegistryOperator.Yaml

/-- A word that may turn out to be a key. -/
structure KeyCandidate where
  /-- Whether it must be one, for nothing else may stand there. -/
  required : Bool
  /-- How many words are before it. -/
  number : Nat
  mark : Mark
  index : Nat

/-- The state of reading. -/
structure TextState where
  rest : List Char
  mark : Mark := {}
  index : Nat := 0
  tokens : List Token := []
  /-- The columns of the open blocks, the innermost first. -/
  indents : List Nat := []
  /-- The candidates of the open flow collections, the innermost first, and of the block around
  them. -/
  candidates : List (Option KeyCandidate) := [none]
  /-- Whether a key may begin here. -/
  keyAllowed : Bool := true

/-- A step of reading. A fault comes with the state in which it was met. -/
abbrev Take := ExceptT Fault (StateM TextState)

namespace Take

def flowLevel (s : TextState) : Nat := s.candidates.length - 1

/-- Whether the text goes on in a flow collection. -/
def inFlow : Take Bool := return flowLevel (← get) ≠ 0

def rest : Take (List Char) := return (← get).rest

def here : Take Mark := return (← get).mark

def fail {α : Type} (problem : String) (course : Option (String × Mark) := none) : Take α := do
  throw ⟨problem, ← here, course⟩

def skip : Take Unit := modify fun s => { s with
  rest := s.rest.drop 1
  mark := ⟨s.mark.line, s.mark.column + 1⟩
  index := s.index + 1 }

def skipMany : Nat → Take Unit
  | 0 => return ()
  | n + 1 => do
    skip
    skipMany n

/-- Goes on by a line break, and says what it stands for. -/
def lineBreak : Take (List Char) := do
  let next (n : Nat) : Take Unit := modify fun s => { s with
    rest := s.rest.drop n
    mark := ⟨s.mark.line + 1, 0⟩
    index := s.index + n }
  match ← rest with
  | '\r' :: '\n' :: _ =>
    next 2
    return ['\n']
  | c :: _ =>
    if isBreak c then
      next 1
      return [if c = '\u2028' ∨ c = '\u2029' then c else '\n']
    else return []
  | [] => return []

/-- Takes the characters of this line that have a property. -/
def takeWhile (property : Char → Bool) : Take (List Char) := do
  let taken := (← rest).takeWhile fun c => property c && !isBreak c
  skipMany taken.length
  return taken

def add (kind : TokenKind) (mark : Mark) : Take Unit :=
  modify fun s => { s with tokens := s.tokens ++ [⟨kind, mark⟩] }

def insert (n : Nat) (kind : TokenKind) (mark : Mark) : Take Unit :=
  modify fun s => { s with tokens := s.tokens.take n ++ ⟨kind, mark⟩ :: s.tokens.drop n }

def allowKey (allowed : Bool) : Take Unit := modify fun s => { s with keyAllowed := allowed }

/-! Keys and indentation -/

/-- What is said when a key has no colon. -/
def noColon (c : KeyCandidate) : Take Unit :=
  fail "could not find expected ':'" (some ("while scanning a simple key", c.mark))

def giveUp : Option KeyCandidate → Take Unit
  | some c => if c.required then noColon c else return ()
  | none => return ()

/-- A candidate ends with its line, or after 1024 characters. -/
def isStale (s : TextState) (c : KeyCandidate) : Bool :=
  c.mark.line < s.mark.line || c.index + 1024 < s.index

/-- Gives up the candidates that have ended. -/
def dropStale : Take Unit := do
  let s ← get
  for c in s.candidates.reverse do
    if let some c := c then
      if isStale s c then giveUp (some c)
  set { s with candidates := s.candidates.map (Option.filter (!isStale s ·)) }

def dropCandidate : Take Unit := do
  giveUp ((← get).candidates.head?.bind id)
  modify fun s => { s with candidates := none :: s.candidates.drop 1 }

def saveCandidate : Take Unit := do
  if (← get).keyAllowed then
    dropCandidate
    modify fun s =>
      let required := flowLevel s = 0 && s.indents.head? = some s.mark.column
      let c := ⟨required, s.tokens.length, s.mark, s.index⟩
      { s with candidates := some c :: s.candidates.drop 1 }

/-- Opens a block at a column, unless one is open there. -/
def openBlock (column : Nat) (number : Option Nat) (kind : TokenKind) (mark : Mark) :
    Take Unit := do
  let s ← get
  if flowLevel s = 0 ∧ s.indents.head?.all (· < column) then
    set { s with indents := column :: s.indents }
    insert (number.getD s.tokens.length) kind mark

/-- Closes the blocks that are further to the right than a column; all of them if there is none. -/
def closeBlocks (column : Option Nat) : Take Unit := do
  let s ← get
  if flowLevel s = 0 then
    let closed := s.indents.takeWhile fun indent => column.all (· < indent)
    set { s with indents := s.indents.drop closed.length }
    for _ in closed do
      add .blockEnd s.mark

/-! Texts -/

/-- Joins what was read before and after blanks or line breaks: blanks are kept, and a single line
break becomes a blank. -/
def joint (blanks first others : List Char) : List Char :=
  match first with
  | [] => blanks
  | ['\n'] => if others = [] then [' '] else others
  | _ => first ++ others

/-- Takes blanks and line breaks: the blanks before the first line break, that break, and the
others. The blanks at the start of a line are dropped. -/
def takeSpace (check : Take Unit) :
    Nat → List Char → List Char → List Char → Take (List Char × List Char × List Char)
  | 0, blanks, first, others => return (blanks, first, others)
  | n + 1, blanks, first, others => do
    match ← rest with
    | c :: _ =>
      if isBlank c then
        if first = [] then
          skip
          takeSpace check n (blanks ++ [c]) first others
        else
          check
          skip
          takeSpace check n blanks first others
      else if isBreak c then
        let b ← lineBreak
        if first = [] then takeSpace check n [] b others
        else takeSpace check n blanks first (others ++ b)
      else return (blanks, first, others)
    | [] => return (blanks, first, others)

def goesOn (flow : Bool) : List Char → Bool
  | ':' :: rest => !isSpaceOrEnd rest
  | c :: _ => !(isBlank c || isBreak c || (flow && c ∈ [',', '[', ']', '\x7b', '\x7d']))
  | [] => false

/-- Takes the characters of a plain text up to a space. -/
def plainPart (start : Mark) (flow : Bool) : Nat → List Char → Take (List Char)
  | 0, taken => return taken
  | n + 1, taken => do
    let cs ← rest
    match cs with
    | ':' :: c :: _ =>
      if flow ∧ c ∈ [',', '?', '[', ']', '\x7b', '\x7d'] then
        fail "found unexpected ':'" (some ("while scanning a plain scalar", start))
    | _ => pure ()
    match cs with
    | c :: _ =>
      if goesOn flow cs then
        skip
        plainPart start flow n (taken ++ [c])
      else return taken
    | [] => return taken

/-- Takes the rest of a plain text, after the part `done` and what joins it to the next part. A text
that ends with its line leaves room for a key. -/
def plainText (start : Mark) (indent : Nat) :
    Nat → List Char → List Char → Bool → Take (List Char)
  | 0, done, _, _ => return done
  | n + 1, done, joined, broken => do
    let finish (broken : Bool) (done : List Char) : Take (List Char) := do
      if broken then allowKey true
      return done
    let cs ← rest
    if ((← here).column = 0 ∧ isDocumentMark cs) ∨ cs.head? = some '#' then
      finish broken done
    else
      let flow ← inFlow
      let taken ← plainPart start flow cs.length []
      let done := if taken = [] then done else done ++ joined ++ taken
      if !(← rest).head?.any fun c => isBlank c || isBreak c then
        finish (broken && taken = []) done
      else
        let noTab : Take Unit := do
          if (← here).column < indent ∧ (← rest).head? = some '\t' then
            fail "found a tab character that violates indentation"
              (some ("while scanning a plain scalar", start))
        let (blanks, first, others) ← takeSpace noTab cs.length [] [] []
        let broken := first ≠ []
        if !flow ∧ (← here).column < indent then finish broken done
        else plainText start indent n done (joint blanks first others) broken

/-- The character of a letter after a backslash. -/
def escaped? : Char → Option Char
  | '0' => some '\x00'
  | 'a' => some '\x07'
  | 'b' => some '\x08'
  | 't' | '\t' => some '\t'
  | 'n' => some '\n'
  | 'v' => some '\x0b'
  | 'f' => some '\x0c'
  | 'r' => some '\r'
  | 'e' => some '\x1b'
  | ' ' => some ' '
  | '"' => some '"'
  | '/' => some '/'
  | '\\' => some '\\'
  | 'N' => some '\u0085'
  | '_' => some '\u00a0'
  | 'L' => some '\u2028'
  | 'P' => some '\u2029'
  | _ => none

def escape (start : Mark) : Take Char := do
  let course := some ("while parsing a quoted scalar", start)
  let width : Char → Nat
    | 'x' => 2
    | 'u' => 4
    | 'U' => 8
    | _ => 0
  match ← rest with
  | _ :: c :: _ =>
    match escaped? c, width c with
    | some d, _ =>
      skipMany 2
      return d
    | none, 0 => fail "found unknown escape character" course
    | none, width =>
      skipMany 2
      let digits := (← rest).take width
      match Text.hexValue? digits with
      | some n =>
        if digits.length < width then fail "did not find expected hexdecimal number" course
        else if n.isValidChar then
          skipMany width
          return Char.ofNat n
        else fail "found invalid Unicode character escape code" course
      | none => fail "did not find expected hexdecimal number" course
  | _ => fail "found unknown escape character" course

/-- Takes the rest of a quoted text with its closing quote. -/
def quotedText (start : Mark) (quote : Char) : Nat → List Char → Take (List Char)
  | 0, done => return done
  | n + 1, done => do
    let course := some ("while scanning a quoted scalar", start)
    let cs ← rest
    if (← here).column = 0 ∧ isDocumentMark cs then
      fail "found unexpected document indicator" course
    match cs with
    | [] => fail "found unexpected end of stream" course
    | c :: next =>
      if isBlank c ∨ isBreak c then
        let (blanks, first, others) ← takeSpace (pure ()) cs.length [] [] []
        quotedText start quote n (done ++ joint blanks first others)
      else if c = quote then
        if quote = '\x27' ∧ next.head? = some quote then
          skipMany 2
          quotedText start quote n (done ++ [c])
        else
          skip
          return done
      else if c = '\\' ∧ quote = '"' then
        if next.head?.any isBreak then
          -- the line break is dropped, with the blanks that follow it
          skip
          let _ ← lineBreak
          let (_, _, others) ← takeSpace (pure ()) cs.length [] ['\n'] []
          quotedText start quote n (done ++ others)
        else
          let d ← escape start
          quotedText start quote n (done ++ [d])
      else
        skip
        quotedText start quote n (done ++ [c])

/-- Takes the empty lines of a block text, and finds its indentation if it is not known. -/
def emptyLines (start : Mark) (indent : Option Nat) :
    Nat → Nat → List Char → Take (Nat × List Char)
  | 0, widest, breaks => return (indent.getD widest, breaks)
  | n + 1, widest, breaks => do
    let column := (← here).column
    let blanks := ((← rest).takeWhile (· = ' ')).length
    skipMany (indent.elim blanks fun indent => min blanks (indent - column))
    let column := (← here).column
    let widest := max widest column
    match ← rest with
    | c :: _ =>
      if indent.all (column < ·) ∧ c = '\t' then
        fail "found a tab character where an indentation space is expected"
          (some ("while scanning a block scalar", start))
      if isBreak c then emptyLines start indent n widest (breaks ++ (← lineBreak))
      else return (indent.getD widest, breaks)
    | [] => return (indent.getD widest, breaks)

def blockLines (start : Mark) (literal : Bool) (indent : Nat) :
    Nat → List Char → Bool → List Char → List Char → Take (List Char × List Char × List Char)
  | 0, done, _, first, others => return (done, first, others)
  | n + 1, done, wasBlank, first, others => do
    let cs ← rest
    if (← here).column = indent ∧ cs ≠ [] then
      let blank := cs.head?.any isBlank
      let fold := !literal && first = ['\n'] && !wasBlank && !blank
      let done := done ++ (if fold then (if others = [] then [' '] else []) else first) ++ others
      let line ← takeWhile fun _ => true
      let first ← lineBreak
      let (_, others) ← emptyLines start (some indent) (cs.length + 1) 0 []
      blockLines start literal indent n (done ++ line) blank first others
    else return (done, first, others)

def blockText (start : Mark) (literal : Bool) : Take (List Char) := do
  let course := some ("while scanning a block scalar", start)
  let digit : Take (Option Nat) := do
    match (← rest).head? with
    | some c =>
      if c = '0' then fail "found an indentation indicator equal to 0" course
      else if c.isDigit then
        skip
        return some (c.toNat - '0'.toNat)
      else return none
    | none => return none
  let chomping : Take (Option Bool) := do
    match (← rest).head? with
    | some '+' =>
      skip
      return some true
    | some '-' =>
      skip
      return some false
    | _ => return none
  let first ← chomping
  let increment ← digit
  let second ← if first.isNone && increment.isSome then chomping else pure none
  let keep := first.or second
  let _ ← takeWhile isBlank
  if (← rest).head? = some '#' then
    let _ ← takeWhile fun _ => true
  if !(← rest).head?.all isBreak then fail "did not find expected comment or line break" course
  let _ ← lineBreak
  let around := (← get).indents.head?
  let size := (← rest).length + 1
  let (indent, others) ← emptyLines start (increment.map (around.getD 0 + ·)) size 0 []
  let indent := if increment.isSome then indent else max indent (max 1 (around.elim 0 (· + 1)))
  let (text, first, others) ← blockLines start literal indent size [] false [] others
  return text ++ (if keep = some false then [] else first) ++
    (if keep = some true then others else [])

/-- Takes the name of an anchor or an alias. -/
def anchorName (isAlias : Bool) : Take String := do
  let start ← here
  skip
  let name ← takeWhile fun c => c.isAlphanum || c = '_' || c = '-'
  let ends := isSpaceOrEnd (← rest) ||
    (← rest).head?.any fun c => c ∈ ['?', ':', ',', ']', '\x7d', '%', '@', '\x60']
  if name = [] ∨ !ends then
    fail "did not find expected alphabetic or numeric character"
      (some (if isAlias then "while scanning an alias" else "while scanning an anchor", start))
  return String.ofList name

/-- Takes a line about the text that follows. -/
def directive : Take Unit := do
  let start ← here
  let course := some ("while scanning a directive", start)
  skip
  let name ← takeWhile fun c => c.isAlphanum || c = '_' || c = '-'
  if name = [] then fail "could not find expected directive name" course
  if !isSpaceOrEnd (← rest) then fail "found unexpected non-alphabetical character" course
  if String.ofList name ∉ ["YAML", "TAG"] then fail "found unknown directive name" course
  let _ ← takeWhile fun _ => true
  add .directive start

/-! Words -/

/-- Drops blanks, comments and line breaks before the next word. -/
def toNextWord : Nat → Take Unit
  | 0 => return ()
  | n + 1 => do
    let tabs := (← inFlow) || !(← get).keyAllowed
    let _ ← takeWhile fun c => c = ' ' || (tabs && c = '\t')
    if (← rest).head? = some '#' then
      let _ ← takeWhile fun _ => true
    if (← rest).head?.any isBreak then
      let _ ← lineBreak
      if !(← inFlow) then allowKey true
      toNextWord n

/-- Ends all blocks before a mark of documents, or the end. -/
def endBlocks : Take Unit := do
  closeBlocks none
  dropCandidate
  allowKey false

def single (kind : TokenKind) : Take Unit := do
  add kind (← here)
  skip

/-- Takes the opening of a flow collection. -/
def openFlow (kind : TokenKind) : Take Unit := do
  saveCandidate
  modify fun s => { s with candidates := none :: s.candidates }
  allowKey true
  single kind

def closeFlow (kind : TokenKind) : Take Unit := do
  dropCandidate
  modify fun s => { s with
    candidates := if 1 < s.candidates.length then s.candidates.drop 1 else s.candidates }
  allowKey false
  single kind

/-- Opens a block for an entry or a key, if one may begin here. -/
def beginBlock (kind : TokenKind) (problem : String) : Take Unit := do
  if !(← inFlow) then
    if !(← get).keyAllowed then fail problem
    let mark ← here
    openBlock mark.column none kind mark

/-- Takes the colon before a value. What came before it is a key, if it can be one. -/
def colon : Take Unit := do
  match (← get).candidates.head?.bind id with
  | some c =>
    insert c.number .key c.mark
    openBlock c.mark.column (some c.number) .blockMapStart c.mark
    modify fun s => { s with candidates := none :: s.candidates.drop 1 }
    allowKey false
  | none =>
    beginBlock .blockMapStart "mapping values are not allowed in this context"
    allowKey (!(← inFlow))
  single .value

def textWord (plain : Bool) (read : Mark → Take (List Char)) : Take Unit := do
  saveCandidate
  allowKey false
  let start ← here
  let text ← read start
  add (.scalar plain (String.ofList text)) start

def word : Take Unit := do
  toNextWord ((← rest).length + 1)
  dropStale
  closeBlocks (some (← here).column)
  let start ← here
  let cs ← rest
  let flow ← inFlow
  let size := cs.length + 1
  let plain : Take Unit := do
    let indent := (← get).indents.head?.elim 0 (· + 1)
    textWord true fun start => plainText start indent size [] [] false
  let noWord : Take Unit := fail "found character that cannot start any token"
    (some ("while scanning for the next token", start))
  match cs with
  | [] =>
    modify fun s => { s with
      mark := if s.mark.column = 0 then s.mark else ⟨s.mark.line + 1, 0⟩ }
    endBlocks
    add .streamEnd (← here)
  | c :: next =>
    if start.column = 0 ∧ c = '%' then
      endBlocks
      directive
    else if start.column = 0 ∧ isDocumentMark cs then
      endBlocks
      skipMany 3
      add (if c = '-' then .documentStart else .documentEnd) start
    else if c = '[' then openFlow .flowListStart
    else if c = '\x7b' then openFlow .flowMapStart
    else if c = ']' then closeFlow .flowListEnd
    else if c = '\x7d' then closeFlow .flowMapEnd
    else if c = ',' then
      dropCandidate
      allowKey true
      single .flowEntry
    else if c = '-' ∧ isSpaceOrEnd next then
      beginBlock .blockListStart "block sequence entries are not allowed in this context"
      dropCandidate
      allowKey true
      single .blockEntry
    else if c = '?' ∧ (flow ∨ isSpaceOrEnd next) then
      beginBlock .blockMapStart "mapping keys are not allowed in this context"
      dropCandidate
      allowKey (!flow)
      single .key
    else if c = ':' ∧ (flow ∨ isSpaceOrEnd next) then colon
    else if c = '*' ∨ c = '&' then
      saveCandidate
      allowKey false
      let name ← anchorName (c = '*')
      add (if c = '*' then .alias name else .anchor name) start
    else if c = '!' then
      saveCandidate
      allowKey false
      let text ← takeWhile fun c => !isBlank c && !(flow && c ∈ [',', ']', '\x7d'])
      add (.tag (String.ofList text)) start
    else if (c = '|' ∨ c = '>') ∧ !flow then
      dropCandidate
      allowKey true
      skip
      let text ← blockText start (c = '|')
      add (.scalar false (String.ofList text)) start
    else if c = '\x27' ∨ c = '"' then
      textWord false fun start => do
        skip
        quotedText start c size []
    else if c ∈ ['-', '?', ':'] then
      if (c = '-' ∧ !next.head?.any isBlank) ∨ (!flow ∧ !isSpaceOrEnd next) then plain
      else noWord
    else if isBlank c ∨ c ∈ ['#', '%', '@', '\x60', '|', '>'] then noWord
    else plain

def words : Nat → Take Unit
  | 0 => return ()
  | n + 1 => do
    word
    if !((← get).tokens.getLast?.any fun t => t.kind = .streamEnd) then words n

end Take

/-- The words of a text, up to a fault. Those after a word that could still turn out to be a key are
not known when the fault is met. -/
def tokens (text : String) : List Token × Option Fault :=
  let (result, s) := (Take.words (2 * text.length + 4)).run.run { rest := text.toList }
  match result with
  | .ok () => (s.tokens, none)
  | .error fault =>
    let open_ := s.candidates.filterMap id |>.filter (!Take.isStale s ·)
    (s.tokens.take ((open_.map (·.number)).foldl min s.tokens.length), some fault)

end RegistryOperator.Yaml
