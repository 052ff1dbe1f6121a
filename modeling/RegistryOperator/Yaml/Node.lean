import RegistryOperator.Yaml.Words

/-! From the words of YAML text to its documents. An alias stands for what its anchor was put at. -/

namespace RegistryOperator.Yaml

/-- A part of a document. -/
inductive Node
  | scalar (mark : Mark) (tag : Option String) (plain : Bool) (text : String)
  | list (mark : Mark) (items : List Node)
  | map (mark : Mark) (members : List (Node × Node))

instance : Inhabited Node := ⟨.scalar {} none true ""⟩

/-- The words that are left, the fault after the last one, and what anchors were put at. -/
structure WordState where
  tokens : List Token
  fault : Option Fault
  anchors : List (String × Node) := []

/-- A step of gathering words into parts. -/
abbrev Gather := StateT WordState (Except Fault)

namespace Gather

def peek : Gather Token := do
  let s ← get
  match s.tokens, s.fault with
  | t :: _, _ => return t
  | [], some fault => throw fault
  | [], none => return ⟨.streamEnd, {}⟩

def drop : Gather Unit := modify fun s => { s with tokens := s.tokens.drop 1 }

/-- Whether the next word is one of some. -/
def isNext (kinds : List TokenKind) : Gather Bool := return (← peek).kind ∈ kinds

def fail {α : Type} (problem : String) (course : Option (String × Mark)) : Gather α := do
  throw ⟨problem, (← peek).mark, course⟩

/-- Nothing at all, which stands for null. -/
def nothing : Gather Node := return .scalar (← peek).mark none true ""

/-- Takes the anchor and the tag before a part, in any order. -/
def properties : Nat → Option String → Option String → Gather (Option String × Option String)
  | 0, anchor, tag => return (anchor, tag)
  | n + 1, anchor, tag => do
    match (← peek).kind, anchor, tag with
    | .anchor name, none, tag =>
      drop
      properties n (some name) tag
    | .tag text, anchor, none =>
      drop
      properties n anchor (some text)
    | _, anchor, tag => return (anchor, tag)

def keep (anchor : Option String) (node : Node) : Gather Node := do
  if let some name := anchor then
    modify fun s => { s with anchors := (name, node) :: s.anchors }
  return node

mutual

/-- Takes a part of a document: of a block or of a flow collection. In some blocks the entries of a
list are not indented. -/
def node : Nat → Bool → Bool → Gather Node
  | 0, _, _ => nothing
  | n + 1, block, bare => do
    let first ← peek
    if let .alias name := first.kind then
      match (← get).anchors.lookup name with
      | some node =>
        drop
        return node
      | none => fail "unknown anchor" none
    else
      let (anchor, tag) ← properties 2 none none
      let t ← peek
      match t.kind with
      | .scalar plain text =>
        drop
        keep anchor (.scalar first.mark tag plain text)
      | .flowListStart =>
        drop
        keep anchor (.list first.mark (← flowItems n t.mark true))
      | .flowMapStart =>
        drop
        keep anchor (.map first.mark (← flowMembers n t.mark true))
      | kind =>
        if kind = .blockEntry ∧ bare then keep anchor (.list first.mark (← bareItems n))
        else if kind = .blockListStart ∧ block then
          drop
          keep anchor (.list first.mark (← blockItems n t.mark))
        else if kind = .blockMapStart ∧ block then
          drop
          keep anchor (.map first.mark (← blockMembers n t.mark))
        else if anchor.isSome ∨ tag.isSome then
          keep anchor (.scalar first.mark tag true "")
        else
          let course := if block then "while parsing a block node" else "while parsing a flow node"
          fail "did not find expected node content" (some (course, first.mark))

/-- Takes a part unless one of some words is next. -/
def nodeUnless : Nat → List TokenKind → Bool → Bool → Gather Node
  | 0, _, _, _ => nothing
  | n + 1, kinds, block, bare => do
    if ← isNext kinds then nothing else node n block bare

/-- Takes the entries of an indented list. -/
def blockItems : Nat → Mark → Gather (List Node)
  | 0, _ => return []
  | n + 1, mark => do
    if ← isNext [.blockEntry] then
      drop
      let item ← nodeUnless n [.blockEntry, .blockEnd] true false
      return item :: (← blockItems n mark)
    else if ← isNext [.blockEnd] then
      drop
      return []
    else
      fail "did not find expected '-' indicator" (some ("while parsing a block collection", mark))

/-- Takes the entries of a list that is not indented. -/
def bareItems : Nat → Gather (List Node)
  | 0 => return []
  | n + 1 => do
    if ← isNext [.blockEntry] then
      drop
      let item ← nodeUnless n [.blockEntry, .key, .value, .blockEnd] true false
      return item :: (← bareItems n)
    else return []

def blockMembers : Nat → Mark → Gather (List (Node × Node))
  | 0, _ => return []
  | n + 1, mark => do
    let kinds := [.key, .value, .blockEnd]
    if ← isNext [.blockEnd] then
      drop
      return []
    else if ← isNext [.key, .value] then
      let key ←
        if ← isNext [.key] then
          drop
          nodeUnless n kinds true true
        else nothing
      let value ←
        if ← isNext [.value] then
          drop
          nodeUnless n kinds true true
        else nothing
      return (key, value) :: (← blockMembers n mark)
    else fail "did not find expected key" (some ("while parsing a block mapping", mark))

/-- Takes the items of a flow list up to its bracket. -/
def flowItems : Nat → Mark → Bool → Gather (List Node)
  | 0, _, _ => return []
  | n + 1, mark, first => do
    if ← isNext [.flowListEnd] then
      drop
      return []
    else
      if !first then
        if ← isNext [.flowEntry] then drop
        else
          fail "did not find expected ',' or ']'" (some ("while parsing a flow sequence", mark))
      let start := (← peek).mark
      if ← isNext [.key] then
        drop
        let ends := [.flowEntry, .flowListEnd]
        let key ← nodeUnless n (.value :: ends) false false
        let value ←
          if ← isNext [.value] then
            drop
            nodeUnless n ends false false
          else nothing
        return .map start [(key, value)] :: (← flowItems n mark false)
      else if ← isNext [.flowListEnd] then
        drop
        return []
      else
        let item ← node n false false
        return item :: (← flowItems n mark false)

/-- Takes the members of a flow map up to its brace. -/
def flowMembers : Nat → Mark → Bool → Gather (List (Node × Node))
  | 0, _, _ => return []
  | n + 1, mark, first => do
    if ← isNext [.flowMapEnd] then
      drop
      return []
    else
      if !first then
        if ← isNext [.flowEntry] then drop
        else
          fail "did not find expected ',' or '\x7d'" (some ("while parsing a flow mapping", mark))
      let ends := [.flowEntry, .flowMapEnd]
      if ← isNext [.flowMapEnd] then
        drop
        return []
      else if ← isNext [.key] then
        drop
        let key ← nodeUnless n (.value :: ends) false false
        let value ←
          if ← isNext [.value] then
            drop
            nodeUnless n ends false false
          else nothing
        return (key, value) :: (← flowMembers n mark false)
      else
        let key ← node n false false
        return (key, ← nothing) :: (← flowMembers n mark false)

end

/-- Takes the next document, none at the end of the text. Only the first one may begin without its
mark. -/
def document (size : Nat) (first : Bool) : Gather (Option Node) := do
  let marks := [.directive, .documentStart, .streamEnd]
  if !first then
    for _ in [0:size] do
      if ← isNext [.documentEnd] then drop
  if ← isNext [.streamEnd] then return none
  if first && !(← isNext marks) then some <$> finish
  else
    for _ in [0:size] do
      if ← isNext [.directive] then drop
    if !(← isNext [.documentStart]) then fail "did not find expected <document start>" none
    drop
    if ← isNext (.documentEnd :: marks) then some <$> nothing else some <$> finish
where
  finish : Gather Node := do
    let found ← node size true false
    modify fun s => { s with anchors := [] }
    if ← isNext [.documentEnd] then drop
    return found

/-- Takes all documents, and says what is wrong after them. -/
def documents (size : Nat) : Nat → Bool → WordState → List Node × Option Fault
  | 0, _, _ => ([], none)
  | n + 1, first, s =>
    match (document size first).run s with
    | .error fault => ([], some fault)
    | .ok (none, _) => ([], none)
    | .ok (some found, s) =>
      let (others, fault) := documents size n false s
      (found :: others, fault)

end Gather

/-- What is said of a character that may stand nowhere, at its byte in the text. -/
def forbidden (cs : List Char) : Option String :=
  if cs.all isAllowed then none
  else
    let position := (String.ofList (cs.takeWhile isAllowed)).utf8ByteSize
    some ("control characters are not allowed" ++
      if position = 0 then "" else s!" at position {position}")

/-- The documents of a text, and what is said of it where they end. -/
def documents (text : String) : List Node × Option String :=
  match forbidden text.toList with
  | some message => ([], some message)
  | none =>
    let (tokens, fault) := tokens text
    let size := 4 * tokens.length + 8
    let (found, fault) := Gather.documents size size true { tokens, fault }
    (found, fault.map Fault.message)

end RegistryOperator.Yaml
