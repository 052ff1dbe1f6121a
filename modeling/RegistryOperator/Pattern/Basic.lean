import RegistryOperator.Pattern.CharClass

/-! Patterns of text and where they match. The places of a text are those between its characters and
those at its ends. A set of places is a number whose bits are the places, so that a pattern is a
function on such numbers: it takes the places where a match may start to those where it may end. -/

namespace RegistryOperator

/-- A condition on a place. -/
inductive Edge
  | textStart
  | textEnd
  | lineStart
  | lineEnd
  /-- Lines may end in a carriage return, a line feed or both. -/
  | anyLineStart
  | anyLineEnd
  /-- A word begins or ends. -/
  | wordEdge
  | notWordEdge
  | wordStart
  | wordEnd
  /-- No word goes on from before. -/
  | noWordBefore
  /-- No word goes on. -/
  | noWordAfter
deriving DecidableEq, Repr

/-- A pattern. -/
inductive Pattern
  | nothing
  | one (c : CharClass)
  | edge (e : Edge)
  | seq (p q : Pattern)
  | alt (p q : Pattern)
  /-- At least `least` times, and at most `most` times if there is a bound. -/
  | many (p : Pattern) (least : Nat) (most : Option Nat)
deriving DecidableEq, Repr

/-- A place in a text: the characters on both sides. -/
structure Place where
  before : Option Char
  after : Option Char
deriving DecidableEq, Repr

namespace Place

/-- The places of a text after a character. -/
def listFrom (before : Option Char) : List Char → List Place
  | [] => [⟨before, none⟩]
  | c :: cs => ⟨before, some c⟩ :: listFrom (some c) cs

/-- Whether a character belongs to a word. -/
def inWord (c : Option Char) : Bool := c.any fun c => CharClass.wordChars.has c.toNat

def holds (p : Place) : Edge → Bool
  | .textStart => p.before.isNone
  | .textEnd => p.after.isNone
  | .lineStart => p.before.isNone || p.before = some '\n'
  | .lineEnd => p.after.isNone || p.after = some '\n'
  | .anyLineStart =>
    p.before.isNone || p.before = some '\n' || (p.before = some '\r' && p.after ≠ some '\n')
  | .anyLineEnd =>
    p.after.isNone || p.after = some '\r' || (p.after = some '\n' && p.before ≠ some '\r')
  | .wordEdge => inWord p.before ≠ inWord p.after
  | .notWordEdge => inWord p.before = inWord p.after
  | .wordStart => !inWord p.before && inWord p.after
  | .wordEnd => inWord p.before && !inWord p.after
  | .noWordBefore => !inWord p.before
  | .noWordAfter => !inWord p.after

/-- The set of those places of a list that have a property. -/
def setOf (property : Place → Bool) : List Place → Nat
  | [] => 0
  | p :: rest => 2 * setOf property rest + (property p).toNat

end Place

namespace Pattern

def times (f : Nat → Nat) : Nat → Nat → Nat
  | 0, s => s
  | n + 1, s => times f n (f s)

/-- What is reached from a set in at most `n` steps. -/
def within (f : Nat → Nat) : Nat → Nat → Nat
  | 0, s => s
  | n + 1, s =>
    let t := s ||| f s
    if t = s then s else within f n t

/-- Where matches end that start in a set of places. A repetition that goes on for longer than there
are places gets nowhere else. -/
def ends (places : List Place) : Pattern → Nat → Nat
  | .nothing, s => s
  | .one c, s => 2 * (s &&& Place.setOf (fun p => p.after.any fun a => c.has a.toNat) places)
  | .edge e, s => s &&& Place.setOf (·.holds e) places
  | .seq p q, s => ends places q (ends places p s)
  | .alt p q, s => ends places p s ||| ends places q s
  | .many p least most, s =>
    let bound := places.length + 1
    let more := most.elim bound fun most => min (most - least) bound
    within (fun s => ends places p s) more
      (times (fun s => ends places p s) (min least bound) s)

/-- Whether a pattern matches somewhere in a text. -/
def isIn (p : Pattern) (text : String) : Bool :=
  let places := Place.listFrom none text.toList
  p.ends places (Place.setOf (fun _ => true) places) ≠ 0

/-- A measure of the memory that a pattern takes. -/
def weight : Pattern → Nat
  | .nothing => 32
  | .one c => if c.isBasic then 32 else 400
  | .edge _ => 32
  | .seq p q => p.weight + q.weight
  | .alt p q => p.weight + q.weight + 48
  | .many p least most => most.elim ((least + 1) * p.weight + 48) fun most =>
      least * p.weight + (most - least) * (p.weight + 48)

end Pattern
end RegistryOperator
