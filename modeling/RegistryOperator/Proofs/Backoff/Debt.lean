import RegistryOperator.Proofs.Backoff.Delays
import RegistryOperator.Proofs.Backoff.Turns

/-! The debt of a token bucket. Tokens asked for ahead of their time make the number of tokens
negative, but it never falls below `-2 ^ 53`: as a double that is as low as it gets by taking one
away. So every wait is a length of time if `2 ^ 53` tokens come in within `2 ^ 64` seconds. If they
take as long as that, enough calls at one instant make a debt for which there is no wait. -/

namespace RegistryOperator

open Binary64

namespace Binary64

variable {a b d p q t : Float} {v w x y : ℚ}

/-- Not below a number, as far as it can be compared. -/
def Reaches (f : Float) (v : ℚ) : Prop :=
  content f = .notANumber ∨ content f = .infinity .positive ∨ ∃ r, Is f r ∧ v ≤ r

theorem Becomes.reaches (h : Becomes a w) (hv : v ≤ w) (hlow : -limit < v) : Reaches a v := by
  rcases lt_or_ge w limit with hsmall | hlarge
  · exact Or.inr (Or.inr ⟨w, h.finite (abs_lt.mpr ⟨hlow.trans_le hv, hsmall⟩), hv⟩)
  · exact Or.inr (Or.inl (h.positive hlarge))

theorem le_of_negative_infinity (hb : Is b y) (ha : content a = .infinity .negative) : a ≤ b := by
  rw [Binary64.le_iff, ha]
  rcases hb.zero_or_finite with ⟨s, hcontent, -⟩ | ⟨s, m, e, hm, hcontent, -⟩
  · rw [hcontent]
    rfl
  · rw [hcontent]
    cases s <;> rfl

theorem not_le_of_positive_infinity (hb : Is b y) (ha : content a = .infinity .positive) :
    ¬a ≤ b := by
  rw [Binary64.le_iff, ha]
  rcases hb.zero_or_finite with ⟨s, hcontent, -⟩ | ⟨s, m, e, hm, hcontent, -⟩
  · rw [hcontent]
    exact Bool.false_ne_true
  · rw [hcontent]
    cases s <;> exact Bool.false_ne_true

theorem not_le_of_notANumber (ha : content a = .notANumber) : ¬a ≤ b := by
  rw [Binary64.le_iff, ha]
  exact Bool.false_ne_true

theorem cases_of_not_le (hb : Is b y) (h : ¬a ≤ b) :
    content a = .notANumber ∨ content a = .infinity .positive ∨ ∃ x, Is a x ∧ y < x := by
  rcases content_cases a with hnan | ⟨s, hinfinite⟩ | ⟨x, hx⟩
  · exact Or.inl hnan
  · cases s with
    | positive => exact Or.inr (Or.inl hinfinite)
    | negative => exact absurd (le_of_negative_infinity hb hinfinite) h
  · exact Or.inr (Or.inr ⟨x, hx, not_le.mp (mt (hx.le_iff hb).mpr h)⟩)

theorem zero_is : Is 0 0 := by
  have hcontent : content 0 = .zero .positive := rfl
  rw [Is, hcontent]
  exact rfl

theorem one_is : Is 1 1 := by
  have h : Is (1 : UInt64).toFloat ((1 : UInt64).toNat) := toFloat_is (by decide)
  exact_mod_cast h

/-- What comes in in a time is not negative, whatever the rate above zero. -/
theorem reaches_mul (hd : Is d v) (hv : 0 ≤ v) (hq : ¬q ≤ 0) : Reaches (d * q) 0 := by
  rcases cases_of_not_le zero_is hq with hnan | hinfinite | ⟨x, hx, hpos⟩
  · refine Or.inl ?_
    rw [content_mul, hnan]
    cases content d <;> exact stored_notANumber
  · rcases hd.zero_or_finite with ⟨s, hcontent, -⟩ | ⟨s, m, e, hm, hcontent, rfl⟩
    · refine Or.inl ?_
      rw [content_mul, hinfinite, hcontent]
      exact stored_notANumber
    · have hpos : (0 : ℚ) < m * 2 ^ e := by positivity
      cases s with
      | positive =>
          refine Or.inr (Or.inl ?_)
          rw [content_mul, hinfinite, hcontent]
          exact stored_infinity .positive
      | negative =>
          rw [signed] at hv
          linarith
  · obtain ⟨r, hr, hbecomes⟩ := hd.mul hx
    exact hbecomes.reaches (hr.nonneg (by positivity)) (neg_neg_of_pos limit_pos)

theorem reaches_add (ht : Is t v) (hp : Reaches p 0) : Reaches (t + p) v := by
  rcases hp with hnan | hinfinite | ⟨r, hr, hpos⟩
  · refine Or.inl ?_
    rw [content_add, hnan]
    cases content t <;> exact stored_notANumber
  · refine Or.inr (Or.inl ?_)
    rw [content_add, hinfinite]
    rcases ht.zero_or_finite with ⟨s, hcontent, -⟩ | ⟨s, m, e, hm, hcontent, -⟩
    · rw [hcontent]
      exact stored_infinity .positive
    · rw [hcontent]
      exact stored_infinity .positive
  · obtain ⟨w, hw, hbecomes⟩ := ht.add hr
    exact hbecomes.reaches (hw.le_of_le v ht.representable (by linarith)) (abs_lt.mp ht.abs_lt).1

theorem capped_eq : Quantity.capped a b = if a ≤ b then a else b := by
  simp [Quantity.capped, Quantity.atMost]

/-- What is capped stays between what it reached and the cap. -/
theorem capped_is (hb : Is b y) (hv : v ≤ y) (ha : Reaches a v) :
    ∃ r, Is (Quantity.capped a b) r ∧ v ≤ r ∧ r ≤ y := by
  rw [capped_eq]
  by_cases hle : a ≤ b
  · rw [if_pos hle]
    rcases ha with hnan | hinfinite | ⟨r, hr, hvr⟩
    · exact absurd hle (not_le_of_notANumber hnan)
    · exact absurd hle (not_le_of_positive_infinity hb hinfinite)
    · exact ⟨r, hr, hvr, (hr.le_iff hb).mp hle⟩
  · rw [if_neg hle]
    exact ⟨y, hb, hv, le_rfl⟩

/-- How low the tokens get: one taken away from `-2 ^ 53` leaves it as it is. -/
def deepest : Float := .ofBits 0xC340000000000000

theorem deepest_is : Is deepest (-2 ^ 53) := by
  have hcontent : content deepest = .finite .negative (2 ^ 52) 1 (by decide) := rfl
  rw [Is, hcontent]
  exact ⟨⟨by norm_num, by norm_num, Or.inl le_rfl⟩, by simp only [signed]; norm_num⟩

theorem deepest_sub_one : deepest - 1 = deepest := rfl

theorem representable_intCast {n : ℤ} (hn : |n| ≤ 2 ^ 53) : Representable n := by
  obtain ⟨k, rfl | rfl⟩ := n.eq_nat_or_neg
  · rw [Nat.abs_cast] at hn
    rw [Int.cast_natCast]
    exact representable_natCast (by exact_mod_cast hn)
  · rw [abs_neg, Nat.abs_cast] at hn
    rw [Int.cast_neg, Int.cast_natCast]
    exact (representable_natCast (by exact_mod_cast hn)).neg

/-- Above `-2 ^ 53` there is room for one less. -/
theorem Representable.sub_one_of_lt (h : Representable v) (hlow : -2 ^ 53 < v) :
    -2 ^ 53 ≤ v - 1 := by
  rcases h.multiple_or_small 0 with ⟨n, rfl⟩ | ⟨-, hsmall⟩
  · rw [zpow_zero, mul_one] at hlow ⊢
    have hn : -2 ^ 53 < n := by exact_mod_cast hlow
    have hn' : -2 ^ 53 ≤ n - 1 := by omega
    exact_mod_cast hn'
  · have hneg := (abs_lt.mp hsmall).1
    norm_num at hneg
    linarith

/-- Taking one away leads to `-2 ^ 53` at the lowest, and to no debt if one was there. -/
theorem sub_one_is (ha : Is a v) (hlow : -2 ^ 53 ≤ v) :
    ∃ r, Is (a - 1) r ∧ -2 ^ 53 ≤ r ∧ r ≤ v ∧ (1 ≤ v → 0 ≤ r) := by
  rcases hlow.eq_or_lt with rfl | hlt
  · rw [ha.eq_of_ne deepest_is (by norm_num), deepest_sub_one]
    exact ⟨_, deepest_is, le_rfl, le_rfl, fun hone => by norm_num at hone⟩
  · obtain ⟨r, hr, hbecomes⟩ := ha.sub one_is
    have hmin : Representable (-2 ^ 53) := (representable_two_pow 53).neg
    have hge : -2 ^ 53 ≤ r := hr.le_of_le _ hmin (ha.representable.sub_one_of_lt hlt)
    have hle : r ≤ v := hr.ge_of_ge v ha.representable (by linarith)
    have hlimit : (2 : ℚ) ^ 53 < limit := lt_limit (by norm_num)
    have hsmall : |r| < limit :=
      abs_lt.mpr ⟨by linarith, hle.trans_lt (abs_lt.mp ha.abs_lt).2⟩
    exact ⟨r, hbecomes.finite hsmall, hge, hle, fun hone => hr.nonneg (by linarith)⟩

theorem sub_one_whole {n : ℤ} (ha : Is a n) (hlow : -2 ^ 53 < n) (hhigh : n ≤ 2 ^ 53) :
    Is (a - 1) (n - 1 : ℤ) := by
  obtain ⟨r, hr, hbecomes⟩ := ha.sub one_is
  have hn : |n - 1| ≤ 2 ^ 53 := by
    rw [abs_le]
    omega
  have hcast : ((n - 1 : ℤ) : ℚ) = n - 1 := by push_cast; rfl
  rw [← hcast] at hr
  rw [hr.eq (representable_intCast hn)] at hbecomes
  have hsmall : |((n - 1 : ℤ) : ℚ)| ≤ 2 ^ 53 := by exact_mod_cast hn
  exact hbecomes.finite (lt_limit (hsmall.trans (by norm_num)))

/-- The greatest rate at which `2 ^ 53` tokens take `2 ^ 64` seconds: one in 2048 seconds. -/
def slowest : Float := .ofBits 0x3F40000000000000

theorem slowest_is : Is slowest (1 / 2048) := by
  have hcontent : content slowest = .finite .positive (2 ^ 52) (-63) (by decide) := rfl
  rw [Is, hcontent]
  exact ⟨⟨by norm_num, by norm_num, Or.inl le_rfl⟩, by simp only [signed]; norm_num⟩

/-- The next rate above the slowest. -/
theorem Representable.above_slowest (h : Representable x) (hx : 1 / 2048 < x) :
    1 / 2048 + 1 / 2 ^ 63 ≤ x := by
  rcases h.multiple_or_small (-63) with ⟨n, rfl⟩ | ⟨-, hsmall⟩
  · have hpow : (2 : ℚ) ^ (-63 : ℤ) = 1 / 2 ^ 63 := by norm_num
    rw [hpow] at hx ⊢
    have hn : 2 ^ 52 < n := by
      have hn : (2 : ℚ) ^ 52 < n := by linarith
      exact_mod_cast hn
    have hn' : ((2 : ℚ) ^ 52 + 1) ≤ n := by exact_mod_cast hn
    linarith
  · have hless := (abs_lt.mp hsmall).2
    norm_num at hless
    linarith

theorem div_infinity (ha : Is a v) (hq : content q = .infinity .positive) : Is (a / q) 0 := by
  rw [Is, content_div, hq]
  rcases ha.zero_or_finite with ⟨s, hcontent, -⟩ | ⟨s, m, e, hm, hcontent, -⟩
  · rw [hcontent]
    change Denotes (stored (.zero _)) 0
    rw [stored_zero]
    exact rfl
  · rw [hcontent]
    change Denotes (stored (.zero _)) 0
    rw [stored_zero]
    exact rfl

end Binary64

namespace Duration

variable {a q : Float} {v x : ℚ}

/-- A rate above the slowest makes up for every debt in time. -/
theorem wait_isSome (ha : Is a v) (hlow : -2 ^ 53 ≤ v) (hneg : v < 0) (hq : ¬q ≤ slowest)
    (hnumber : content q ≠ .notANumber) : (ofDouble? (-a / q).toBits).isSome := by
  rcases cases_of_not_le slowest_is hq with hnan | hinfinite | ⟨x, hx, hfast⟩
  · exact absurd hnan hnumber
  · exact (ofDouble?_isSome (div_infinity ha.neg hinfinite)).mpr ⟨le_rfl, by norm_num⟩
  · have hpos : 0 < x := by linarith
    obtain ⟨r, hr, hbecomes⟩ := ha.neg.div hx hpos.ne'
    have hnonneg : 0 ≤ -v / x := div_nonneg (by linarith) hpos.le
    have hquotient : -v / x ≤ 2 ^ 64 - 2 ^ 11 := by
      have habove := hx.representable.above_slowest hfast
      rw [div_le_iff₀ hpos]
      linarith
    have hshort : r ≤ 2 ^ 64 - 2 ^ 11 := hr.ge_of_ge _ representable_before_tooLong hquotient
    rw [ofDouble?_becomes hbecomes (hr.nonneg hnonneg)]
    linarith

/-- A rate up to the slowest does not make up for the deepest debt in time. -/
theorem wait_isNone (ha : Is a (-2 ^ 53)) (hq : Is q x) (hpos : 0 < x) (hslow : x ≤ 1 / 2048) :
    ¬(ofDouble? (-a / q).toBits).isSome := by
  obtain ⟨r, hr, hbecomes⟩ := ha.neg.div hq hpos.ne'
  have hquotient : 2 ^ 64 ≤ -(-2 ^ 53) / x := by
    rw [le_div_iff₀ hpos]
    linarith
  have hlong : 2 ^ 64 ≤ r := hr.le_of_le _ (representable_two_pow 64) hquotient
  rw [ofDouble?_becomes hbecomes (by linarith)]
  exact not_lt.mpr hlong

theorem wait_isNone_of_notANumber (hq : content q = .notANumber) :
    ¬(ofDouble? (-a / q).toBits).isSome := by
  have hbits := ofBits_toBits (-a / q)
  have hcontent : content (-a / q) = .notANumber := by
    rw [content_div, hq]
    cases content (-a) <;> exact stored_notANumber
  rw [hcontent] at hbits
  rw [ofDouble?, hbits]
  exact Bool.false_ne_true

end Duration

namespace TokenBucket

section

variable {R : Type} [Quantity R] (b : TokenBucket R) (now : Duration)

/-- The tokens left after one is taken. -/
def left : R :=
  Quantity.capped (b.tokens + Quantity.seconds ⟨now.nanos - b.last.nanos⟩ * b.qps) b.burst -
    Quantity.ofNat 1

theorem charge_eq (h : Quantity.atMost b.qps (Quantity.ofNat 0) = false) :
    b.charge now =
      (if Quantity.atMost (Quantity.ofNat 0) (b.left now) then some .zero
        else Quantity.toDuration? (-b.left now / b.qps),
        { b with tokens := b.left now, last := now }) := by
  have hreserve : b.reserve now =
      (if Quantity.atMost (Quantity.ofNat 0) (b.left now) then none
        else some (-b.left now / b.qps), { b with tokens := b.left now, last := now }) := by
    rw [reserve, if_neg (by simp [h])]
    by_cases hleft : Quantity.atMost (Quantity.ofNat 0) (b.left now) = true
    · rw [if_pos hleft]
      exact if_pos hleft
    · rw [if_neg hleft]
      exact if_neg hleft
  rw [charge, hreserve]
  split_ifs <;> rfl

end

/-- A bucket of some rate and burst whose tokens are where they can be. -/
structure Bounded (qps : Float) (burst : ℕ) (b : TokenBucket Float) : Prop where
  rate : b.qps = qps
  cap : Is b.burst burst
  tokens : ∃ v, Is b.tokens v ∧ -2 ^ 53 ≤ v ∧ v ≤ burst

variable {qps : Float} {burst : ℕ} {b : TokenBucket Float}

theorem burst_is (hburst : burst < 2 ^ 32) : Is (Quantity.ofNat burst) burst := by
  have hnat : burst.toUInt64.toNat = burst := Nat.mod_eq_of_lt (by omega)
  have h := toFloat_is (n := burst.toUInt64) (by omega)
  rwa [hnat] at h

theorem bounded_full (hburst : burst < 2 ^ 32) (now : Duration) :
    Bounded qps burst (.full qps burst now) where
  rate := rfl
  cap := burst_is hburst
  tokens := ⟨burst, burst_is hburst, by linarith [Nat.cast_nonneg (α := ℚ) burst], le_rfl⟩

namespace Bounded

variable (h : Bounded qps burst b) (now : Duration)
include h

theorem left_of_notANumber (hnan : content qps = .notANumber) : b.left now = b.burst - 1 := by
  have hproduct : content (Duration.toDouble ⟨now.nanos - b.last.nanos⟩ * b.qps) = .notANumber := by
    rw [content_mul, h.rate, hnan]
    cases content _ <;> exact stored_notANumber
  have hsum : content (b.tokens + Duration.toDouble ⟨now.nanos - b.last.nanos⟩ * b.qps) =
      .notANumber := by
    rw [content_add, hproduct]
    cases content _ <;> exact stored_notANumber
  have hcapped := (capped_eq (b := b.burst)).trans (if_neg (not_le_of_notANumber hsum))
  exact congrArg (· - 1) hcapped

/-- At the instant of the last call no tokens come in. -/
theorem left_atOnce {x v : ℚ} (hx : Is qps x) (hv : Is b.tokens v) (hburst : v ≤ burst)
    (hlast : b.last = now) : ∃ c, Is c v ∧ b.left now = c - 1 := by
  have hin : Duration.toDouble ⟨now.nanos - b.last.nanos⟩ = 0 := by
    rw [hlast, Nat.sub_self]
    rfl
  obtain ⟨p, hp, hpbecomes⟩ := zero_is.mul hx
  rw [zero_mul] at hp
  rw [hp.eq representable_zero] at hpbecomes
  obtain ⟨s, hs, hsbecomes⟩ := hv.add (hpbecomes.is le_rfl (by norm_num))
  rw [add_zero] at hs
  rw [hs.eq hv.representable] at hsbecomes
  have hsum : Is (b.tokens + 0 * qps) v := hsbecomes.finite hv.abs_lt
  have hcapped : Quantity.capped (b.tokens + 0 * qps) b.burst = b.tokens + 0 * qps :=
    capped_eq.trans (if_pos ((hsum.le_iff h.cap).mpr hburst))
  refine ⟨_, hsum, ?_⟩
  have hleft : b.left now = Quantity.capped
      (b.tokens + Duration.toDouble ⟨now.nanos - b.last.nanos⟩ * b.qps) b.burst - 1 := rfl
  rw [hleft, hin, h.rate, hcapped]

variable (hqps : ¬qps ≤ 0)
include hqps

theorem charge_eq : b.charge now =
    (if 0 ≤ b.left now then some .zero else Duration.ofDouble? (-b.left now / qps).toBits,
      { b with tokens := b.left now, last := now }) := by
  have hrate : Quantity.atMost b.qps (Quantity.ofNat 0) = false := by
    rw [h.rate]
    exact decide_eq_false hqps
  rw [TokenBucket.charge_eq b now hrate, h.rate]
  congr 1
  by_cases hleft : 0 ≤ b.left now
  · rw [if_pos hleft]
    exact if_pos (decide_eq_true hleft)
  · rw [if_neg hleft]
    exact if_neg (by rw [Bool.not_eq_true]; exact decide_eq_false hleft)

theorem left : ∃ v, Is (b.left now) v ∧ -2 ^ 53 ≤ v ∧ v ≤ burst := by
  obtain ⟨v, hv, hlow, hhigh⟩ := h.tokens
  obtain ⟨d, hd, hpos⟩ := Duration.toDouble_is ⟨now.nanos - b.last.nanos⟩
  have hin := reaches_add hv (reaches_mul hd hpos hqps)
  obtain ⟨c, hc, hvc, hcburst⟩ := capped_is h.cap hhigh (h.rate ▸ hin)
  obtain ⟨r, hr, hrlow, hrc, -⟩ := sub_one_is hc (hlow.trans hvc)
  exact ⟨r, hr, hrlow, hrc.trans hcburst⟩

theorem charge : Bounded qps burst (b.charge now).2 := by
  rw [h.charge_eq now hqps]
  exact ⟨h.rate, h.cap, h.left now hqps⟩

/-- Every call has a wait if the rate is fast enough, or if there is no rate and never more than
one token is asked for. -/
theorem wait (hfast : ¬qps ≤ slowest) (hnumber : qps.isNaN → burst ≠ 0) :
    (b.charge now).1.isSome := by
  rw [h.charge_eq now hqps]
  split_ifs with hleft
  · rfl
  · obtain ⟨v, hv, hlow, -⟩ := h.left now hqps
    have hneg : v < 0 := not_le.mp (mt (zero_is.le_iff hv).mpr hleft)
    refine Duration.wait_isSome hv hlow hneg hfast fun hnan => ?_
    have hburst : burst ≠ 0 := hnumber (Binary64.isNaN_iff.mpr hnan)
    have hone : (1 : ℚ) ≤ burst := by exact_mod_cast Nat.one_le_iff_ne_zero.mpr hburst
    rw [h.left_of_notANumber now hnan] at hv
    obtain ⟨r, hr, -, -, hpos⟩ := sub_one_is h.cap (by linarith)
    have hnonneg : 0 ≤ r := hpos hone
    rw [hr.unique hv] at hnonneg
    linarith

end Bounded

/-- Without a rate and without a token there is no wait. -/
theorem Bounded.not_wait (h : Bounded qps 0 b) (now : Duration)
    (hnan : content qps = .notANumber) : ¬(b.charge now).1.isSome := by
  have hnone : Is b.burst ((0 : ℤ) : ℚ) := by exact_mod_cast h.cap
  have hdebt : ¬0 ≤ b.burst - 1 := by
    rw [zero_is.le_iff (sub_one_whole hnone (by norm_num) (by norm_num))]
    norm_num
  rw [h.charge_eq now (not_le_of_notANumber hnan), h.left_of_notANumber now hnan, if_neg hdebt]
  exact Duration.wait_isNone_of_notANumber hnan

end TokenBucket

namespace Limiter

variable {α : Type} [DecidableEq α] {qps : Float} {burst : ℕ} {now : Duration} {x : ℚ}

/-- At the slowest rate or below, enough calls at one instant make a debt without a wait. The
induction is on how far the debt is from the deepest one. -/
theorem not_unfailing_of_slow [Inhabited α] (hx : Is qps x) (hpos : 0 < x) (hslow : x ≤ 1 / 2048)
    (hsmall : burst < 2 ^ 32) (m : ℕ) (hm : m ≤ burst + 2 ^ 53) {b : ExponentialBackoff α}
    {t : TokenBucket Float} (ht : t.Bounded qps burst)
    (htokens : Is t.tokens ((m - 2 ^ 53 : ℤ) : ℚ)) (hlast : t.last = now) :
    ¬(.longest [.exponential b, .bucket t] : Limiter Float α).Unfailing now := by
  have hqps : ¬qps ≤ 0 := by
    rw [hx.le_iff zero_is]
    exact not_le.mpr hpos
  induction m generalizing b t with
  | zero =>
      have hlowest : ((((0 : ℕ) : ℤ) - 2 ^ 53 : ℤ) : ℚ) = -2 ^ 53 := by norm_num
      rw [hlowest] at htokens
      obtain ⟨c, hc, hleft⟩ := ht.left_atOnce now hx htokens
        (by linarith [Nat.cast_nonneg (α := ℚ) burst]) hlast
      rw [hc.eq_of_ne deepest_is (by norm_num), deepest_sub_one] at hleft
      have hdebt : ¬0 ≤ deepest := by
        rw [zero_is.le_iff deepest_is]
        norm_num
      intro h
      have hwait := (h.parts default).2.1
      rw [ht.charge_eq now hqps, hleft, if_neg hdebt] at hwait
      exact Duration.wait_isNone deepest_is hx hpos hslow hwait
  | succ m ih =>
      have hburst : (((m + 1 : ℕ) - 2 ^ 53 : ℤ) : ℚ) ≤ burst := by
        have hle : ((m + 1 : ℕ) - 2 ^ 53 : ℤ) ≤ burst := by omega
        exact_mod_cast hle
      obtain ⟨c, hc, hleft⟩ := ht.left_atOnce now hx htokens hburst hlast
      have hone := sub_one_whole hc (by omega) (by omega)
      have hnext : ((m + 1 : ℕ) - 2 ^ 53 - 1 : ℤ) = m - 2 ^ 53 := by omega
      have hcharge := ht.charge_eq now hqps
      have htokens' : Is (t.charge now).2.tokens ((m - 2 ^ 53 : ℤ) : ℚ) := by
        rw [hcharge, hleft, ← hnext]
        exact hone
      have hlast' : (t.charge now).2.last = now := by rw [hcharge]
      intro h
      exact ih (by omega) (ht.charge now hqps) htokens' hlast' (h.parts default).2.2

end Limiter
end RegistryOperator
