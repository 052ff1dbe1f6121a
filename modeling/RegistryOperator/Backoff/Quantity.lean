import RegistryOperator.Time.Duration

/-! The arithmetic in which delays are calculated. The operator calculates in doubles; the same
definitions over an exact field say what is meant. -/

namespace RegistryOperator

/-- Numbers of seconds, tokens and tokens a second. -/
class Quantity (R : Type) extends Add R, Sub R, Mul R, Div R, Neg R where
  /-- A length of time in seconds. -/
  seconds : Duration → R
  ofNat : Nat → R
  /-- Whether a number is at most another. -/
  atMost : R → R → Bool
  isFinite : R → Bool
  /-- A number of seconds as a length of time, if there is one that long. -/
  toDuration? : R → Option Duration

namespace Quantity

variable {R : Type} [Quantity R]

/-- Whether a number is less than another. -/
def below (a b : R) : Bool := atMost a b && !atMost b a

/-- `a`, but no more than `cap`; what cannot be compared counts as too much. -/
def capped (a cap : R) : R := if atMost a cap then a else cap

end Quantity

/-- The length of a time in seconds as a double: whole seconds and the fraction are converted
apart. -/
def Duration.toDouble (d : Duration) : Float :=
  (d.nanos / 10 ^ (9 : Nat)).toUInt64.toFloat +
    (d.nanos % 10 ^ (9 : Nat)).toUInt64.toFloat / 1000000000

instance : Quantity Float where
  seconds := Duration.toDouble
  ofNat n := n.toUInt64.toFloat
  atMost a b := a ≤ b
  isFinite := Float.isFinite
  toDuration? x := Duration.ofDouble? x.toBits

end RegistryOperator
