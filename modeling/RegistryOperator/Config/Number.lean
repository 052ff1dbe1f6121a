import RegistryOperator.Decimal.Binary64

/-! Numbers as they stand in settings: unsigned whole numbers, and decimal fractions read to the
nearest double. Blanks are not allowed. -/

namespace RegistryOperator.Config

/-- Why a text is not a number. -/
inductive NumberFault
  | emptyWhole
  | invalidDigit
  | tooLarge
  | emptyDecimal
  | invalidDecimal
deriving DecidableEq, Repr

def NumberFault.message : NumberFault → String
  | .emptyWhole => "cannot parse integer from empty string"
  | .invalidDigit => "invalid digit found in string"
  | .tooLarge => "number too large to fit in target type"
  | .emptyDecimal => "cannot parse float from empty string"
  | .invalidDecimal => "invalid float literal"

/-- Reads the digits of a whole number below `bound`; the first fault from the left counts. -/
def readDigits (bound acc : Nat) : List Char → Except NumberFault Nat
  | [] => .ok acc
  | c :: cs =>
    if c.isDigit then
      let next := 10 * acc + (c.toNat - '0'.toNat)
      if next < bound then readDigits bound next cs else .error .tooLarge
    else .error .invalidDigit

/-- Reads a whole number below `bound`, which may have a plus sign. -/
def readWhole (bound : Nat) (s : String) : Except NumberFault Nat :=
  match s.toList with
  | [] => .error .emptyWhole
  | ['+'] => .error .invalidDigit
  | '+' :: cs => readDigits bound 0 cs
  | cs => readDigits bound 0 cs

def digitsValue (cs : List Char) : Nat := cs.foldl (fun acc c => 10 * acc + (c.toNat - '0'.toNat)) 0

/-- Reads an exponent: nothing, or an `e`, a sign and digits. -/
def readExponent : List Char → Option Int
  | [] => some 0
  | e :: cs =>
    if e = 'e' ∨ e = 'E' then
      let (negative, ds) := match cs with
        | '-' :: ds => (true, ds)
        | '+' :: ds => (false, ds)
        | ds => (false, ds)
      if ds ≠ [] ∧ ds.all Char.isDigit then
        some (if negative then -(digitsValue ds : Int) else digitsValue ds)
      else none
    else none

/-- Reads a decimal fraction without sign as the bits of a double. There is a digit before or after
the point. -/
def readPositive (cs : List Char) : Option UInt64 :=
  let word := cs.map Char.toLower
  if word = ['i', 'n', 'f'] ∨ word = ['i', 'n', 'f', 'i', 'n', 'i', 't', 'y'] then
    some 0x7ff0000000000000
  else if word = ['n', 'a', 'n'] then some 0x7ff8000000000000
  else
    let whole := cs.takeWhile Char.isDigit
    let rest := cs.dropWhile Char.isDigit
    let (fraction, rest) := match rest with
      | '.' :: rest => (rest.takeWhile Char.isDigit, rest.dropWhile Char.isDigit)
      | _ => ([], rest)
    if whole ++ fraction = [] then none
    else (readExponent rest).map fun e =>
      Decimal.bitsOfDecimal (digitsValue (whole ++ fraction)) (e - fraction.length)

/-- Reads a decimal fraction, which may have a sign. -/
def readDecimal (s : String) : Except NumberFault Float :=
  match s.toList with
  | [] => .error .emptyDecimal
  | '-' :: cs =>
    ((readPositive cs).map fun bits => Float.ofBits (Decimal.negateBits bits)).elim
      (.error .invalidDecimal) .ok
  | '+' :: cs => ((readPositive cs).map Float.ofBits).elim (.error .invalidDecimal) .ok
  | cs => ((readPositive cs).map Float.ofBits).elim (.error .invalidDecimal) .ok

end RegistryOperator.Config
