import RegistryOperator.Decimal.Binary64

/-! The shortest decimal text of a double: the fewest digits that read back as the same double, and
of those the digits nearest to its value. A `Layout` then decides where digits are written
positionally. -/

namespace RegistryOperator.Decimal

/-- A decimal `digits * 10 ^ exponent`. -/
structure Scientific where
  digits : Nat
  exponent : Int
deriving DecidableEq, Repr

/-- The number `k` with `10 ^ (k - 1) ≤ num / den < 10 ^ k`. -/
def decimalLength (num den : Nat) : Int :=
  if den ≤ num then (Nat.toDigits 10 (num / den)).length
  else 1 - ((Nat.toDigits 10 ((den + num - 1) / num - 1)).length : Int)

/-- The reals that round to a double: all of `low`, `value` and `high` in units of `1 / den`, and
whether the two ends belong to it. -/
structure Interval where
  low : Nat
  value : Nat
  high : Nat
  den : Nat
  closed : Bool

/-- The interval around `m * 2 ^ q`. Below a power of two the neighbours are half as far apart. -/
def Interval.around (m : Nat) (q : Int) : Interval :=
  let below := if m = 2 ^ (52 : Nat) ∧ -1074 < q then 1 else 2
  let (unit, den) := if 2 ≤ q then (2 ^ (q - 2).toNat, 1) else (1, 2 ^ (2 - q).toNat)
  ⟨(4 * m - below) * unit, 4 * m * unit, (4 * m + 2) * unit, den, m % 2 = 0⟩

/-- Whether `digits * 10 ^ exponent` lies in the interval. -/
def Interval.holds (i : Interval) (s : Scientific) : Bool :=
  let (a, b) :=
    if 0 ≤ s.exponent then (s.digits * 10 ^ s.exponent.toNat * i.den, 1)
    else (s.digits * i.den, 10 ^ (-s.exponent).toNat)
  if i.closed then i.low * b ≤ a && a ≤ i.high * b else i.low * b < a && a < i.high * b

/-- The interval's value in units of `10 ^ exponent`, as a quotient. -/
def Interval.inUnits (i : Interval) (exponent : Int) : Nat × Nat :=
  if 0 ≤ exponent then (i.value, i.den * 10 ^ exponent.toNat)
  else (i.value * 10 ^ (-exponent).toNat, i.den)

/-- The point of the grid of width `10 ^ exponent` in the interval that is nearest to its value. -/
def Interval.onGrid (i : Interval) (exponent : Int) : Option Scientific :=
  let (a, b) := i.inUnits exponent
  let down : Scientific := ⟨a / b, exponent⟩
  let up : Scientific := ⟨a / b + 1, exponent⟩
  match i.holds down, i.holds up with
  | true, true => if roundHalfEven a b = a / b then down else up
  | true, false => some down
  | false, true => some up
  | false, false => none

/-- The first of the grids with `n`, `n + 1`, … digits that has a point in the interval. -/
def Interval.shortest (i : Interval) (length : Int) (n : Nat) : Nat → Scientific
  | 0 => let (a, b) := i.inUnits (length - n); ⟨roundHalfEven a b, length - n⟩
  | fuel + 1 => (i.onGrid (length - n)).getD (i.shortest length (n + 1) fuel)

def Scientific.trim (s : Scientific) : Nat → Scientific
  | 0 => s
  | fuel + 1 =>
    if s.digits ≠ 0 ∧ s.digits % 10 = 0 then
      (Scientific.mk (s.digits / 10) (s.exponent + 1)).trim fuel
    else s

/-- The shortest decimal that reads back as `m * 2 ^ q`. -/
def shortest (m : Nat) (q : Int) : Scientific :=
  if m = 0 then ⟨0, 0⟩
  else
    let i := Interval.around m q
    (i.shortest (decimalLength i.value i.den) 1 16).trim 400

/-- How the text of a number is laid out: the exponents of its leading digit for which it is written
positionally. -/
structure Layout where
  least : Int
  greatest : Int

/-- The text of `digits * 10 ^ exponent`; a whole number ends in `.0`, and an exponent that is
written has a sign. -/
def Layout.write (l : Layout) (s : Scientific) : String :=
  let digits := Nat.toDigits 10 s.digits
  let point : Int := digits.length + s.exponent
  if s.digits = 0 then "0.0"
  else if l.least ≤ point - 1 ∧ point - 1 ≤ l.greatest then
    if 0 ≤ s.exponent then
      String.ofList (digits ++ List.replicate s.exponent.toNat '0' ++ ['.', '0'])
    else if 0 < point then
      String.ofList (digits.take point.toNat ++ '.' :: digits.drop point.toNat)
    else String.ofList ('0' :: '.' :: List.replicate (-point).toNat '0' ++ digits)
  else
    let mantissa := match digits with
      | [d] => [d]
      | d :: rest => d :: '.' :: rest
      | [] => []
    String.ofList mantissa ++ (if 0 < point - 1 then "e+" else "e") ++ toString (point - 1)

def Layout.text (l : Layout) (bits : UInt64) : String :=
  match Double.ofBits bits with
  | .nan => "NaN"
  | .infinite negative => if negative then "-inf" else "inf"
  | .finite ⟨negative, m, q⟩ => (if negative then "-" else "") ++ l.write (shortest m q)

end RegistryOperator.Decimal
