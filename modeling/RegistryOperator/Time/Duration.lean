import RegistryOperator.Decimal.Binary64

/-! Lengths of time in whole nanoseconds. -/

namespace RegistryOperator

/-- A length of time. -/
structure Duration where
  nanos : Nat
deriving DecidableEq, Repr, Inhabited

namespace Duration

def zero : Duration := ⟨0⟩

def ofMillis (n : Nat) : Duration := ⟨n * 10 ^ (6 : Nat)⟩

def ofSeconds (n : Nat) : Duration := ⟨n * 10 ^ (9 : Nat)⟩

def max (a b : Duration) : Duration := if a.nanos ≤ b.nanos then b else a

/-- The whole milliseconds that cover it. -/
def ceilMillis (d : Duration) : Nat := (d.nanos + (10 ^ (6 : Nat) - 1)) / 10 ^ (6 : Nat)

/-- The first length of time that is too long, in seconds: one count of seconds past 64 bits. -/
def secondsBound : Nat := 2 ^ (64 : Nat)

/-- A number of seconds as a length of time, to the nearest nanosecond, ties to even. None if it is
negative, too long or not a number. -/
def ofDouble? (bits : UInt64) : Option Duration :=
  match Decimal.Double.ofBits bits with
  | .finite ⟨negative, m, q⟩ =>
    if negative ∧ m ≠ 0 then none
    else
      let (a, b) := if 0 ≤ q then (m * 2 ^ q.toNat, 1) else (m, 2 ^ (-q).toNat)
      if secondsBound * b ≤ a then none
      else some ⟨Decimal.roundHalfEven (a * 10 ^ (9 : Nat)) b⟩
  | _ => none

/-- The decimal digits after the point of `part / 10 ^ width`, without trailing zeros. -/
def fractionDigits (width part : Nat) : List Char :=
  let digits := Nat.toDigits 10 part
  let padded := List.replicate (width - digits.length) '0' ++ digits
  if part = 0 then [] else '.' :: (padded.reverse.dropWhile (· = '0')).reverse

def text (d : Duration) : String :=
  let write (unit : Nat) (width : Nat) (name : String) : String :=
    toString (d.nanos / unit) ++ String.ofList (fractionDigits width (d.nanos % unit)) ++ name
  if 10 ^ (9 : Nat) ≤ d.nanos then write (10 ^ (9 : Nat)) 9 "s"
  else if 10 ^ (6 : Nat) ≤ d.nanos then write (10 ^ (6 : Nat)) 6 "ms"
  else if 10 ^ (3 : Nat) ≤ d.nanos then write (10 ^ (3 : Nat)) 3 "µs"
  else toString d.nanos ++ "ns"

end Duration
end RegistryOperator
