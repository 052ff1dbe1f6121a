/-! Sets of characters, as patterns describe them. -/

namespace RegistryOperator

/-- A set of characters, by their code points. -/
inductive CharClass
  | empty
  | range (low high : Nat)
  | union (a b : CharClass)
  | inter (a b : CharClass)
  | diff (a b : CharClass)
  | complement (a : CharClass)
  /-- The set and what it holds in the other case of basic letters. -/
  | bothCases (a : CharClass)
deriving DecidableEq, Repr

namespace CharClass

/-- The code point of a basic letter in the other case; all others stay. -/
def otherCase (n : Nat) : Nat :=
  if 65 ≤ n ∧ n ≤ 90 then n + 32 else if 97 ≤ n ∧ n ≤ 122 then n - 32 else n

def has : CharClass → Nat → Bool
  | .empty, _ => false
  | .range low high, n => low ≤ n && n ≤ high
  | .union a b, n => a.has n || b.has n
  | .inter a b, n => a.has n && b.has n
  | .diff a b, n => a.has n && !b.has n
  | .complement a, n => !a.has n
  | .bothCases a, n => a.has n || a.has (otherCase n)

def single (c : Char) : CharClass := .range c.toNat c.toNat

def all (sets : List CharClass) : CharClass := sets.foldl .union .empty

def eitherOf (a b : CharClass) : CharClass := .union (.diff a b) (.diff b a)

def any : CharClass := .complement .empty

/-- Whether only basic characters are in the set, as far as bytes go. -/
def isBasic (c : CharClass) : Bool := (List.range 128).all fun i => !c.has (128 + i)

def digits : CharClass := .range 48 57

def lower : CharClass := .range 97 122

def upper : CharClass := .range 65 90

def letters : CharClass := .union upper lower

def wordChars : CharClass := all [digits, letters, single '_']

def spaces : CharClass := .union (.range 9 13) (single ' ')

def ofName? (name : String) : Option CharClass :=
  match name with
  | "alnum" => some (.union digits letters)
  | "alpha" => some letters
  | "ascii" => some (.range 0 127)
  | "blank" => some (.union (single '\t') (single ' '))
  | "cntrl" => some (.union (.range 0 31) (.range 127 127))
  | "digit" => some digits
  | "graph" => some (.range 33 126)
  | "lower" => some lower
  | "print" => some (.range 32 126)
  | "punct" => some (all [.range 33 47, .range 58 64, .range 91 96, .range 123 126])
  | "space" => some spaces
  | "upper" => some upper
  | "word" => some wordChars
  | "xdigit" => some (all [digits, .range 65 70, .range 97 102])
  | _ => none

end CharClass
end RegistryOperator
