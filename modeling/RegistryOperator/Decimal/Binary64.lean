/-! Double-precision numbers as exact dyadic values. A finite double is `± m * 2 ^ q`; reading its
bits, and rounding an exact quotient back to bits, are done in `Nat`, so both are exact. -/

namespace RegistryOperator

-- Powers of whole numbers compute: they are the core library's, also where there are others. For
-- that a literal exponent has to say its type.
attribute [scoped instance (high)] instPowNat

namespace Decimal

/-- `num / den` rounded to the nearest natural, a tie going to the even neighbour. -/
def roundHalfEven (num den : Nat) : Nat :=
  let quotient := num / den
  let twice := 2 * (num % den)
  if twice < den then quotient
  else if den < twice then quotient + 1
  else if quotient % 2 = 0 then quotient else quotient + 1

/-- The exact value `± m * 2 ^ q` of a finite double. -/
structure Dyadic where
  negative : Bool
  m : Nat
  q : Int
deriving DecidableEq, Repr

/-- What the bits of a double stand for. -/
inductive Double
  | nan
  | infinite (negative : Bool)
  | finite (value : Dyadic)
deriving DecidableEq, Repr

def Double.ofBits (bits : UInt64) : Double :=
  let n : Nat := bits.toNat
  let negative : Bool := n / 2 ^ (63 : Nat) = 1
  let exponent : Nat := n / 2 ^ (52 : Nat) % 2 ^ (11 : Nat)
  let fraction : Nat := n % 2 ^ (52 : Nat)
  if exponent = 2047 then
    if fraction = 0 then .infinite negative else .nan
  else if exponent = 0 then .finite ⟨negative, fraction, -1074⟩
  else .finite ⟨negative, 2 ^ (52 : Nat) + fraction, (exponent : Int) - 1075⟩

/-- `a / b * 2 ^ (-e)` as a quotient of naturals. -/
def scaleDown (a b : Nat) (e : Int) : Nat × Nat :=
  if 0 ≤ e then (a, b * 2 ^ e.toNat) else (a * 2 ^ (-e).toNat, b)

/-- The bits of the double nearest to `num / den`, ties to even, beyond the largest double
infinite. -/
def bitsOfRatio (num den : Nat) : UInt64 :=
  if num = 0 then 0
  else
    let guess : Int := (num.log2 : Int) - den.log2 - 52
    let (a, b) := scaleDown num den guess
    let e := max (if a / b < 2 ^ (52 : Nat) then guess - 1 else guess) (-1074)
    let (a, b) := scaleDown num den e
    let m := roundHalfEven a b
    let (m, e) := if m = 2 ^ (53 : Nat) then (2 ^ (52 : Nat), e + 1) else (m, e)
    if 971 < e then 0x7ff0000000000000
    else if m < 2 ^ (52 : Nat) then m.toUInt64
    else (((e + 1075).toNat * 2 ^ (52 : Nat)) + (m - 2 ^ (52 : Nat))).toUInt64

/-- The bits of the double nearest to `m * 10 ^ e`. The first two cases decide values that are out
of range whatever the digits, so that no huge power is formed. -/
def bitsOfDecimal (m : Nat) (e : Int) : UInt64 :=
  let length : Int := (Nat.toDigits 10 m).length
  if m = 0 ∨ length + e < -400 then 0
  else if 400 < length + e then 0x7ff0000000000000
  else if 0 ≤ e then bitsOfRatio (m * 10 ^ e.toNat) 1
  else bitsOfRatio m (10 ^ (-e).toNat)

def negateBits (bits : UInt64) : UInt64 := bits ^^^ 0x8000000000000000

end Decimal
end RegistryOperator
