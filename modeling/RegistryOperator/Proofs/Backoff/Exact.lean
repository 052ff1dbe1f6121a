import Mathlib.Algebra.Order.Field.Rat
import Mathlib.Data.Rat.Cast.Order
import Mathlib.Tactic.NormNum
import Mathlib.Tactic.Positivity
import Mathlib.Tactic.Ring
import RegistryOperator.Backoff.Limiter

/-! Limiters in exact arithmetic. Lengths of time are whole nanoseconds, so there is nothing to
round in a doubled delay: it is the delay doubled, or the cap where that is less. A wait for a token
is rounded when it becomes a length of time, and nowhere else. -/

namespace RegistryOperator

/-- The length of a time in seconds. -/
def Duration.exact (d : Duration) : ℚ := d.nanos / 10 ^ 9

theorem Duration.exact_mono {d d' : Duration} (h : d.nanos ≤ d'.nanos) : d.exact ≤ d'.exact :=
  div_le_div_of_nonneg_right (Nat.cast_le.mpr h) (by positivity)

/-- A number of seconds, tokens or tokens a second, calculated exactly. -/
structure Exact where
  val : ℚ
deriving DecidableEq

namespace Exact

/-- A number of seconds as a length of time, to the nearest nanosecond, ties to even. None if it is
negative or too long. -/
def toDuration? (x : Exact) : Option Duration :=
  if 0 ≤ x.val ∧ x.val < Duration.secondsBound then
    some ⟨Decimal.roundHalfEven (x.val.num.toNat * 10 ^ (9 : ℕ)) x.val.den⟩
  else none

instance : Quantity Exact where
  add a b := ⟨a.val + b.val⟩
  sub a b := ⟨a.val - b.val⟩
  mul a b := ⟨a.val * b.val⟩
  div a b := ⟨a.val / b.val⟩
  neg a := ⟨-a.val⟩
  seconds d := ⟨d.exact⟩
  ofNat n := ⟨n⟩
  atMost a b := a.val ≤ b.val
  isFinite _ := true
  toDuration? := toDuration?

@[simp] theorem val_add (a b : Exact) : (a + b).val = a.val + b.val := rfl
@[simp] theorem val_sub (a b : Exact) : (a - b).val = a.val - b.val := rfl
@[simp] theorem val_mul (a b : Exact) : (a * b).val = a.val * b.val := rfl
@[simp] theorem val_div (a b : Exact) : (a / b).val = a.val / b.val := rfl
@[simp] theorem val_neg (a : Exact) : (-a).val = -a.val := rfl
@[simp] theorem val_ofNat (n : ℕ) : (Quantity.ofNat n : Exact).val = n := rfl
@[simp] theorem val_seconds (d : Duration) : (Quantity.seconds d : Exact).val = d.exact := rfl

theorem atMost_iff (a b : Exact) : Quantity.atMost a b = true ↔ a.val ≤ b.val := decide_eq_true_iff

theorem below_iff (a b : Exact) : Quantity.below a b = true ↔ a.val < b.val := by
  rw [Quantity.below, Bool.and_eq_true, Bool.not_eq_true', ← Bool.not_eq_true, atMost_iff,
    atMost_iff, lt_iff_le_not_ge]

@[simp] theorem val_capped (a cap : Exact) : (Quantity.capped a cap).val = min a.val cap.val := by
  unfold Quantity.capped
  split_ifs with hle
  · exact (min_eq_left ((atMost_iff a cap).mp hle)).symm
  · exact (min_eq_right (le_of_not_ge (mt (atMost_iff a cap).mpr hle))).symm

/-- Whole nanoseconds need no rounding. -/
theorem roundHalfEven_mul (n : ℕ) {den : ℕ} (hden : 0 < den) :
    Decimal.roundHalfEven (n * den) den = n := by
  rw [Decimal.roundHalfEven, Nat.mul_div_cancel n hden, Nat.mul_mod_left]
  exact if_pos hden

theorem toDuration?_nanos {x : Exact} {nanos : ℕ} (hx : x.val = nanos / 10 ^ 9)
    (hshort : nanos < Duration.secondsBound * 10 ^ (9 : ℕ)) : x.toDuration? = some ⟨nanos⟩ := by
  have hpos : 0 ≤ x.val := by
    rw [hx]
    positivity
  have hlt : x.val < Duration.secondsBound := by
    rw [hx, div_lt_iff₀ (by norm_num)]
    exact_mod_cast hshort
  have hnum : x.val.num.toNat * 10 ^ (9 : ℕ) = nanos * x.val.den := by
    have hcast : ((x.val.num.toNat : ℕ) : ℚ) = x.val.num := by
      exact_mod_cast Int.toNat_of_nonneg (Rat.num_nonneg.mpr hpos)
    have hden : (x.val.den : ℚ) ≠ 0 := by exact_mod_cast x.val.den_nz
    have hratio : (x.val.num : ℚ) / x.val.den = nanos / 10 ^ 9 := by rw [Rat.num_div_den, hx]
    rw [div_eq_div_iff hden (by norm_num), ← hcast] at hratio
    exact_mod_cast hratio
  rw [toDuration?, if_pos ⟨hpos, hlt⟩, hnum, roundHalfEven_mul nanos x.val.den_pos]

end Exact

namespace ExponentialBackoff

/-- The exact delay after some failures: doubled with each of them, up to 63 times, and capped. -/
def exactDelay (base max : Duration) (failures : ℕ) : Duration :=
  ⟨min (base.nanos * 2 ^ min failures 63) max.nanos⟩

theorem seconds_exact (base : Duration) (failures : ℕ) :
    (seconds Exact base failures).val = (base.nanos * 2 ^ min failures 63 : ℕ) / 10 ^ 9 := by
  rw [seconds, Exact.val_mul, Exact.val_seconds, Exact.val_ofNat, Duration.exact]
  push_cast
  ring

/-- With a cap that is a length of time there is always a delay. -/
theorem delay_exact {base max : Duration} (hmax : max.nanos < Duration.secondsBound * 10 ^ (9 : ℕ))
    (failures : ℕ) : delay Exact base max failures = some (exactDelay base max failures) := by
  have hseconds := seconds_exact base failures
  have hbelow : Quantity.below (Quantity.seconds max) (seconds Exact base failures) = true ↔
      max.nanos < base.nanos * 2 ^ min failures 63 := by
    rw [Exact.below_iff, hseconds, Exact.val_seconds, Duration.exact,
      div_lt_div_iff_of_pos_right (by norm_num)]
    exact Nat.cast_lt
  unfold delay exactDelay
  by_cases hover : max.nanos < base.nanos * 2 ^ min failures 63
  · rw [if_pos (by rw [hbelow.mpr hover, Bool.or_true]), min_eq_right hover.le]
  · have hle := not_lt.mp hover
    have hfinite : Quantity.isFinite (seconds Exact base failures) = true := rfl
    rw [if_neg (by simp [hbelow, hover, hfinite]), min_eq_left hle]
    exact Exact.toDuration?_nanos hseconds (hle.trans_lt hmax)

theorem exactDelay_mono (base max : Duration) {m n : ℕ} (h : m ≤ n) :
    (exactDelay base max m).nanos ≤ (exactDelay base max n).nanos := by
  have hpow : 2 ^ min m 63 ≤ 2 ^ min n 63 :=
    Nat.pow_le_pow_right two_pos (min_le_min_right 63 h)
  exact min_le_min_right _ (Nat.mul_le_mul_left _ hpow)

theorem exactDelay_le (base max : Duration) (n : ℕ) : (exactDelay base max n).nanos ≤ max.nanos :=
  min_le_right _ _

end ExponentialBackoff
end RegistryOperator
