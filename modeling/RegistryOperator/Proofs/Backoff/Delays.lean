import RegistryOperator.Backoff.Limiter
import RegistryOperator.Proofs.Double.Operations

/-! Delays as doubles of seconds. A number of seconds is a length of time if it is not negative and
below `2 ^ 64`. The backoff of an item has no delay only where doubling gives `2 ^ 64` seconds
exactly and the cap is rounded up to as much. -/

namespace RegistryOperator

open Binary64

variable {f : Float} {v : ℚ}

namespace Duration

theorem ofDouble?_finite {bits : UInt64} {negative : Bool} {m : ℕ} {q : ℤ}
    (h : Decimal.Double.ofBits bits = .finite ⟨negative, m, q⟩) :
    (ofDouble? bits).isSome ↔ ¬(negative = true ∧ m ≠ 0) ∧ (m : ℚ) * 2 ^ q < 2 ^ 64 := by
  obtain ⟨a, b, hratio, hb, hvalue⟩ : ∃ a b : ℕ,
      (if 0 ≤ q then (m * 2 ^ q.toNat, 1) else (m, 2 ^ (-q).toNat)) = (a, b) ∧ 0 < b ∧
        (m : ℚ) * 2 ^ q * b = a := by
    by_cases hq : 0 ≤ q
    · refine ⟨m * 2 ^ q.toNat, 1, if_pos hq, one_pos, ?_⟩
      have hpow : (2 : ℚ) ^ q = 2 ^ q.toNat := by rw [← zpow_natCast, Int.toNat_of_nonneg hq]
      rw [hpow]
      push_cast
      ring
    · refine ⟨m, 2 ^ (-q).toNat, if_neg hq, by positivity, ?_⟩
      have hpow : (2 : ℚ) ^ q * 2 ^ (-q).toNat = 1 := by
        rw [← zpow_natCast, Int.toNat_of_nonneg (by omega), ← zpow_add₀ two_ne_zero,
          add_neg_cancel, zpow_zero]
      push_cast
      rw [mul_assoc, hpow, mul_one]
  have hlong : secondsBound * b ≤ a ↔ ¬(m : ℚ) * 2 ^ q < 2 ^ 64 := by
    have hpos : (0 : ℚ) < b := by exact_mod_cast hb
    rw [not_lt, ← mul_le_mul_iff_left₀ hpos, hvalue, ← Nat.cast_le (α := ℚ), Nat.cast_mul]
    rfl
  rw [ofDouble?, h]
  simp only [hratio, hlong]
  split_ifs with hsign hsize <;> simp_all

theorem ofDouble?_isSome (h : Is f v) : (ofDouble? f.toBits).isSome ↔ 0 ≤ v ∧ v < 2 ^ 64 := by
  have hbits := ofBits_toBits f
  rcases h.zero_or_finite with ⟨s, hcontent, rfl⟩ | ⟨s, m, e, hm, hcontent, rfl⟩
  · rw [hcontent] at hbits
    rw [ofDouble?_finite hbits]
    simp
  · rw [hcontent] at hbits
    have hpos : (0 : ℚ) < m * 2 ^ e := by positivity
    rw [ofDouble?_finite hbits]
    cases s with
    | positive => simp [signed, hpos.le]
    | negative =>
        refine iff_of_false (fun h => h.1 ⟨rfl, hm.ne'⟩) fun h => ?_
        have hneg := h.1
        rw [signed] at hneg
        linarith

theorem ofDouble?_becomes (h : Becomes f v) (hv : 0 ≤ v) :
    (ofDouble? f.toBits).isSome ↔ v < 2 ^ 64 := by
  rcases lt_or_ge v limit with hsmall | hlarge
  · have his : Is f v := h.finite (by rwa [abs_of_nonneg hv])
    rw [ofDouble?_isSome his]
    exact and_iff_right hv
  · have hbits := ofBits_toBits f
    rw [h.positive hlarge] at hbits
    have hnone : ofDouble? f.toBits = none := by rw [ofDouble?, hbits]
    have hlong : (2 : ℚ) ^ 64 < limit := lt_limit (by norm_num)
    rw [hnone]
    exact iff_of_false Bool.false_ne_true (not_lt.mpr (hlong.trans_le hlarge).le)

theorem toFloat_rounds (n : UInt64) :
    ∃ v, Is n.toFloat v ∧ Rounds n.toNat v ∧ 0 ≤ v ∧ v ≤ 2 ^ 64 := by
  obtain ⟨r, hrounds, hr⟩ := toFloat_becomes n
  have hn : (n.toNat : ℚ) ≤ 2 ^ 64 := by exact_mod_cast n.toNat_lt.le
  have hlow : 0 ≤ r := hrounds.nonneg (Nat.cast_nonneg _)
  have hhigh : r ≤ 2 ^ 64 := hrounds.le_two_pow hn
  exact ⟨r, hr.is hlow (hhigh.trans (by norm_num)), hrounds, hlow, hhigh⟩

theorem billion : Is 1000000000 1000000000 := by
  have h : Is (1000000000 : UInt64).toFloat ((1000000000 : UInt64).toNat) := toFloat_is (by decide)
  exact_mod_cast h

/-- A length of time is not negative as a double. -/
theorem toDouble_is (d : Duration) : ∃ v, Is d.toDouble v ∧ 0 ≤ v := by
  obtain ⟨s, hs, -, hslow, hshigh⟩ := toFloat_rounds (d.nanos / 10 ^ 9).toUInt64
  obtain ⟨n, hn, -, hnlow, hnhigh⟩ := toFloat_rounds (d.nanos % 10 ^ 9).toUInt64
  obtain ⟨q, hq, hqbecomes⟩ := hn.div billion (by norm_num)
  have hqlow : 0 ≤ q := hq.nonneg (by positivity)
  have hqhigh : q ≤ 2 ^ 64 := hq.le_two_pow ((div_le_self hnlow (by norm_num)).trans hnhigh)
  have hqis := hqbecomes.is hqlow (hqhigh.trans (by norm_num))
  obtain ⟨r, hr, hrbecomes⟩ := hs.add hqis
  have hrlow : 0 ≤ r := hr.nonneg (by positivity)
  have hrhigh : r ≤ 2 ^ 65 := hr.le_two_pow (by linarith)
  exact ⟨r, hrbecomes.is hrlow (hrhigh.trans (by norm_num)), hrlow⟩

/-- Whole seconds are rounded once. -/
theorem toDouble_ofSeconds {n : ℕ} (hn : n < 2 ^ 64) :
    ∃ v, Is (ofSeconds n).toDouble v ∧ Rounds n v ∧ 0 ≤ v ∧ v ≤ 2 ^ 64 := by
  obtain ⟨v, hv, hrounds, hlow, hhigh⟩ := toFloat_rounds n.toUInt64
  have hnat : n.toUInt64.toNat = n := Nat.mod_eq_of_lt hn
  have hzero : Is (0 : ℕ).toUInt64.toFloat 0 := by
    have h := toFloat_is (n := (0 : ℕ).toUInt64) (by decide)
    exact_mod_cast h
  obtain ⟨q, hq, hqbecomes⟩ := hzero.div billion (by norm_num)
  rw [zero_div] at hq
  rw [hq.eq representable_zero] at hqbecomes
  obtain ⟨r, hr, hrbecomes⟩ := hv.add (hqbecomes.is le_rfl (by norm_num))
  rw [add_zero] at hr
  rw [hr.eq hv.representable] at hrbecomes
  refine ⟨v, ?_, hnat ▸ hrounds, hlow, hhigh⟩
  have hwhole : n * 10 ^ 9 / 10 ^ 9 = n := Nat.mul_div_cancel n (by norm_num)
  have hpart : n * 10 ^ 9 % 10 ^ 9 = 0 := Nat.mul_mod_left n _
  rw [toDouble, ofSeconds, hwhole, hpart]
  exact hrbecomes.is hlow (hhigh.trans (by norm_num))

/-- The least double that is too many seconds for a length of time: `2 ^ 64`. -/
def tooLong : Float := .ofBits 0x43F0000000000000

theorem tooLong_is : Is tooLong (2 ^ 64) := by
  have hcontent : content tooLong = .finite .positive (2 ^ 52) 12 (by decide) := rfl
  rw [Is, hcontent]
  exact ⟨⟨by norm_num, by norm_num, Or.inl le_rfl⟩, by simp only [signed]; norm_num⟩

/-- The last double that is not too long. -/
theorem representable_before_tooLong : Representable (2 ^ 64 - 2 ^ 11) :=
  ⟨2 ^ 53 - 1, 11, by norm_num, by norm_num, by norm_num⟩

end Duration

namespace ExponentialBackoff

theorem seconds_becomes (base : Duration) (failures : ℕ) :
    ∃ r, 0 ≤ r ∧ Becomes (seconds Float base failures) r := by
  obtain ⟨b, hb, hblow⟩ := base.toDouble_is
  obtain ⟨p, hp, -, hplow, -⟩ := Duration.toFloat_rounds (2 ^ min failures 63).toUInt64
  obtain ⟨r, hr, hbecomes⟩ := hb.mul hp
  exact ⟨r, hr.nonneg (by positivity), hbecomes⟩

theorem isFinite_eq_false (hr : Becomes f v) (hlarge : limit ≤ v) : f.isFinite = false := by
  have hcontent := hr.positive hlarge
  rw [Bool.eq_false_iff]
  intro hfinite
  obtain ⟨w, hw⟩ := isFinite_iff.mp hfinite
  rw [Is, hcontent] at hw
  exact hw

/-- The backoff has a delay unless it is as long as the cap and both are too long. -/
theorem delay_isSome_iff (base : Duration) {n : ℕ} (hn : n < 2 ^ 64) (failures : ℕ) :
    (delay Float base (.ofSeconds n) failures).isSome ↔
      ¬(seconds Float base failures = Duration.tooLong ∧
        (Duration.ofSeconds n).toDouble = Duration.tooLong) := by
  obtain ⟨r, hrlow, hr⟩ := seconds_becomes base failures
  obtain ⟨cap, hcap, -, hcaplow, hcaphigh⟩ := Duration.toDouble_ofSeconds hn
  obtain ⟨backoff, hbackoff⟩ : ∃ backoff, seconds Float base failures = backoff := ⟨_, rfl⟩
  rw [hbackoff] at hr ⊢
  have hdelay : delay Float base (.ofSeconds n) failures =
      if !backoff.isFinite || (decide ((Duration.ofSeconds n).toDouble ≤ backoff) &&
        !decide (backoff ≤ (Duration.ofSeconds n).toDouble)) then some (.ofSeconds n)
      else Duration.ofDouble? backoff.toBits := by
    rw [← hbackoff]
    rfl
  rcases lt_or_ge r limit with hsmall | hlarge
  · have his : Is backoff r := hr.finite (by rwa [abs_of_nonneg hrlow])
    have hfinite : backoff.isFinite = true := isFinite_iff.mpr ⟨r, his⟩
    simp only [hdelay, hfinite, his.le_iff hcap, hcap.le_iff his, Bool.not_true, Bool.false_or]
    by_cases hle : r ≤ cap
    · rw [if_neg (by simp [hle]), Duration.ofDouble?_isSome his]
      refine ⟨fun h heq => ?_, fun h => ⟨hrlow, ?_⟩⟩
      · rw [heq.1] at his
        exact h.2.ne (his.unique Duration.tooLong_is)
      · by_contra hlong
        have hr64 : r = 2 ^ 64 := le_antisymm (hle.trans hcaphigh) (not_lt.mp hlong)
        have hcap64 : cap = 2 ^ 64 := le_antisymm hcaphigh (hr64 ▸ hle)
        exact h ⟨(hr64 ▸ his).eq_of_ne Duration.tooLong_is (by norm_num),
          (hcap64 ▸ hcap).eq_of_ne Duration.tooLong_is (by norm_num)⟩
    · rw [if_pos (by simp [hle, (not_le.mp hle).le])]
      refine iff_of_true rfl fun heq => hle ?_
      rw [heq.1] at his
      rw [heq.2] at hcap
      exact (his.unique hcap).le
  · rw [hdelay, if_pos (by simp [isFinite_eq_false hr hlarge])]
    refine iff_of_true rfl fun heq => ?_
    have hfinite := isFinite_iff.mpr ⟨_, Duration.tooLong_is⟩
    rw [← heq.1, isFinite_eq_false hr hlarge] at hfinite
    exact Bool.false_ne_true hfinite

end ExponentialBackoff
end RegistryOperator
