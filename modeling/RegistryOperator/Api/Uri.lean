/-! Addresses: a scheme and an authority, then a path and a query. The rules say which characters
may stand where; nothing is decoded. -/

namespace RegistryOperator

/-- Why a text is no address. -/
inductive UriFault
  | character
  | authority
  | format
  | scheme
  | tooLong
  | empty
deriving DecidableEq, Repr

def UriFault.message : UriFault → String
  | .character => "invalid uri character"
  | .authority => "invalid authority"
  | .format => "invalid format"
  | .scheme => "scheme too long"
  | .tooLong => "uri too long"
  | .empty => "empty string"

namespace Uri

def maxSize : Nat := 65534

/-- Whether a character ends the authority. -/
def endsAuthority (c : Char) : Bool := c = '/' || c = '?' || c = '#'

/-- Whether a character may stand in an authority, apart from a percent sign. -/
def inAuthority (c : Char) : Bool :=
  c.isAlphanum || c ∈ ['!', '$', '&', '\x27', '(', ')', '*', '+', ',', '-', '.', ':', ';', '=', '@',
    '[', ']', '_', '~']

/-- Whether a character may stand in a path. -/
def inPath (c : Char) : Bool :=
  let n := c.toNat
  n = 0x21 || (0x24 ≤ n && n ≤ 0x3b) || n = 0x3d || (0x40 ≤ n && n ≤ 0x5f) ||
    (0x61 ≤ n && n ≤ 0x7a) || n = 0x7c || n = 0x7e || c = '"' || c = '\x7b' || c = '\x7d'

/-- Whether a character may stand in a query. -/
def inQuery (c : Char) : Bool :=
  let n := c.toNat
  n = 0x21 || (0x24 ≤ n && n ≤ 0x3b) || n = 0x3d || (0x3f ≤ n && n ≤ 0x7e)

/-- Whether a character may stand in a scheme. -/
def inScheme (c : Char) : Bool := c.isAlphanum || c = '+' || c = '-' || c = '.' || c = '~'

/-- What was seen of an authority. -/
structure AuthorityMarks where
  /-- Colons after the last at sign and the last closing bracket. -/
  colons : Nat := 0
  opened : Bool := false
  closed : Bool := false
  /-- Whether there is a percent sign after the last at sign and the last closing bracket. -/
  percent : Bool := false
  /-- Whether the last character is an at sign. -/
  atSign : Bool := false

def AuthorityMarks.take (m : AuthorityMarks) (c : Char) : Except UriFault AuthorityMarks :=
  let m := { m with atSign := c = '@' }
  if c = '%' then .ok { m with percent := true }
  else if !inAuthority c then .error .character
  else if c = ':' then
    if 8 ≤ m.colons then .error .authority else .ok { m with colons := m.colons + 1 }
  else if c = '[' then
    if m.percent || m.opened then .error .authority else .ok { m with opened := true }
  else if c = ']' then
    if !m.opened || m.closed then .error .authority
    else .ok { m with closed := true, colons := 0, percent := false }
  else if c = '@' then .ok { m with colons := 0, percent := false }
  else .ok m

/-- The authority in front and what follows it. It has at most one colon outside brackets, and
something after the at sign. -/
def authority (cs : List Char) : Except UriFault (List Char × List Char) := do
  let front := cs.takeWhile (!endsAuthority ·)
  let m ← front.foldlM AuthorityMarks.take {}
  if m.opened ≠ m.closed ∨ 1 < m.colons ∨ m.atSign ∨ m.percent then throw .authority
  return (front, cs.dropWhile (!endsAuthority ·))

/-- Checks a path with a query. What follows a number sign does not count. -/
def checkPath (cs : List Char) : Except UriFault Unit :=
  let cs := cs.takeWhile (· ≠ '#')
  let query := (cs.dropWhile (· ≠ '?')).drop 1
  if (cs.takeWhile (· ≠ '?')).all inPath && query.all inQuery then .ok () else .error .character

def maxScheme : Nat := 64

/-- What follows the scheme, if there is one. -/
def afterScheme (cs : List Char) : Except UriFault (Option (List Char)) :=
  let scheme := cs.takeWhile inScheme
  match cs.drop scheme.length with
  | ':' :: '/' :: '/' :: rest =>
    if maxScheme < scheme.length then .error .scheme else .ok (some rest)
  | _ => .ok none

/-- Checks an address. One that starts with a stroke is a path, and one without a scheme an
authority. -/
def check (s : String) : Except UriFault Unit := do
  if maxSize < s.utf8ByteSize then throw .tooLong
  match s.toList with
  | [] => throw .empty
  | ['*'] => return ()
  | '/' :: path => checkPath ('/' :: path)
  | cs =>
    match ← afterScheme cs with
    | none =>
      let (_, rest) ← authority cs
      if rest = [] then return ()
      throw (if cs.length = 1 then .character else .format)
    | some rest =>
      let (front, path) ← authority rest
      if front = [] then throw .format
      checkPath path

/-- Checks what a request asks for: a path with a query. -/
def checkTarget (s : String) : Except UriFault Unit :=
  if maxSize < s.utf8ByteSize then .error .tooLong else checkPath s.toList

end Uri
end RegistryOperator
