import Mathlib
import RegistryOperator.Decimal.Binary64

/-! Rounding to doubles, as far as bounds need it. A number is rounded to a representable one with
no representable one in between, whichever of two neighbours that is. So what is representable is
not rounded, and representable bounds of a number bound what it is rounded to. Every result of the
operations on doubles is a number rounded in this sense. -/

namespace RegistryOperator.Binary64

open Float.Model Float.Model.UnpackedFloat

/-- A number with at most 53 significant bits, none of them below `2 ^ -1074`. -/
def Representable (x : ℚ) : Prop :=
  ∃ k q : ℤ, |k| < 2 ^ 53 ∧ -1074 ≤ q ∧ x = k * 2 ^ q

/-- `r` is on the same side of every representable number as `x`. -/
structure Rounds (x r : ℚ) : Prop where
  representable : Representable r
  le_of_le : ∀ u, Representable u → u ≤ x → u ≤ r
  ge_of_ge : ∀ u, Representable u → x ≤ u → r ≤ u

variable {x r u : ℚ} {m k : ℕ} {e q : ℤ}

theorem Representable.neg (h : Representable x) : Representable (-x) := by
  obtain ⟨k, q, hk, hq, rfl⟩ := h
  exact ⟨-k, q, by rwa [abs_neg], hq, by push_cast; ring⟩

theorem Rounds.neg (h : Rounds x r) : Rounds (-x) (-r) where
  representable := h.representable.neg
  le_of_le u hu hux := neg_le_neg_iff.mp (by
    rw [neg_neg]
    exact h.ge_of_ge (-u) hu.neg (by linarith))
  ge_of_ge u hu hxu := by
    have := h.le_of_le (-u) hu.neg (by linarith)
    linarith

theorem representable_zero : Representable 0 := ⟨0, 0, by norm_num, by norm_num, by simp⟩

theorem representable_two_pow (n : ℕ) : Representable (2 ^ n) :=
  ⟨1, n, by norm_num, by omega, by rw [zpow_natCast, Int.cast_one, one_mul]⟩

theorem Rounds.nonneg (h : Rounds x r) (hx : 0 ≤ x) : 0 ≤ r :=
  h.le_of_le 0 representable_zero hx

theorem Rounds.le_two_pow (h : Rounds x r) {n : ℕ} (hx : x ≤ 2 ^ n) : r ≤ 2 ^ n :=
  h.ge_of_ge _ (representable_two_pow n) hx

theorem Rounds.eq (h : Rounds x r) (hx : Representable x) : r = x :=
  le_antisymm (h.ge_of_ge x hx le_rfl) (h.le_of_le x hx le_rfl)

/-- From the place of a bit on, a representable number has no further bits unless it is small. -/
theorem Representable.multiple_or_small (h : Representable u) (e : ℤ) :
    (∃ n : ℤ, u = n * 2 ^ e) ∨ -1074 < e ∧ |u| < 2 ^ 52 * 2 ^ e := by
  obtain ⟨k, q, hk, hq, rfl⟩ := h
  rcases le_or_gt e q with hle | hlt
  · refine Or.inl ⟨k * 2 ^ (q - e).toNat, ?_⟩
    have hsplit : (2 : ℚ) ^ q = 2 ^ (q - e).toNat * 2 ^ e := by
      rw [← zpow_natCast, ← zpow_add₀ two_ne_zero, Int.toNat_of_nonneg (by omega), sub_add_cancel]
    rw [hsplit]
    push_cast
    ring
  · refine Or.inr ⟨by omega, ?_⟩
    have hk' : |(k : ℚ)| < 2 ^ 53 := by exact_mod_cast hk
    have hpow : (2 : ℚ) ^ q ≤ 2 ^ (e - 1) := zpow_le_zpow_right₀ one_le_two (by omega)
    have hpos : (0 : ℚ) < 2 ^ q := by positivity
    calc |(k : ℚ) * 2 ^ q| = |(k : ℚ)| * 2 ^ q := by rw [abs_mul, abs_of_pos hpos]
      _ < 2 ^ 53 * 2 ^ q := by gcongr
      _ ≤ 2 ^ 53 * 2 ^ (e - 1) := by gcongr
      _ = 2 ^ 52 * 2 ^ e := by rw [zpow_sub₀ two_ne_zero]; ring

theorem representable_of_le (hk : k ≤ 2 ^ 53) (he : -1074 ≤ e) :
    Representable ((k : ℚ) * 2 ^ e) := by
  rcases hk.lt_or_eq with hlt | rfl
  · exact ⟨k, e, by rw [Nat.abs_cast]; exact_mod_cast hlt, he, by push_cast; rfl⟩
  · refine ⟨2 ^ 52, e + 1, by norm_num, by omega, ?_⟩
    rw [zpow_add₀ two_ne_zero]
    push_cast
    ring

/-- A number is rounded to one of the two mantissas next to it if these are as long as they may
be. -/
theorem rounds_of_adjacent (he : -1074 ≤ e) (hfull : 2 ^ 52 ≤ m ∨ e = -1074) (hm : m < 2 ^ 53)
    (hlow : (m : ℚ) ≤ x) (hk : k = m ∨ k = m + 1 ∧ (m : ℚ) < x) (hhigh : x < m + 1) :
    Rounds (x * 2 ^ e) (k * 2 ^ e) := by
  have hpos : (0 : ℚ) < 2 ^ e := by positivity
  have hle : (m : ℚ) * 2 ^ e ≤ k * 2 ^ e := by
    gcongr
    omega
  have hlong : -1074 < e → (2 : ℚ) ^ 52 * 2 ^ e ≤ m * 2 ^ e := fun hlt => by
    have hm' : 2 ^ 52 ≤ m := by omega
    gcongr
    exact_mod_cast hm'
  refine ⟨representable_of_le (by omega) he, fun u hu hux => ?_, fun u hu hxu => ?_⟩
  · rcases hu.multiple_or_small e with ⟨n, rfl⟩ | ⟨hlt, hsmall⟩
    · have hn : (n : ℚ) ≤ x := le_of_mul_le_mul_right hux hpos
      have hnm : n ≤ m := by
        have : (n : ℚ) < (m : ℤ) + 1 := by push_cast; linarith
        exact Int.lt_add_one_iff.mp (by exact_mod_cast this)
      refine le_trans ?_ hle
      gcongr
      exact_mod_cast hnm
    · linarith [hlong hlt, le_abs_self u]
  · rcases hu.multiple_or_small e with ⟨n, rfl⟩ | ⟨hlt, hsmall⟩
    · have hn : x ≤ (n : ℚ) := le_of_mul_le_mul_right hxu hpos
      gcongr
      rcases hk with rfl | ⟨rfl, hstrict⟩
      · linarith
      · have : ((m : ℤ) : ℚ) < n := by push_cast; linarith
        have hmn : (m : ℤ) + 1 ≤ n := by exact_mod_cast this
        push_cast
        exact_mod_cast hmn
    · have hxm : (m : ℚ) * 2 ^ e ≤ x * 2 ^ e := by gcongr
      linarith [hlong hlt, le_abs_self u]

/-- The mantissa is the whole part of `x`, and the bits after it are not both clear if there is a
rest. -/
structure Brackets (em : ExtendedMantissa) (x : ℚ) : Prop where
  low : (em.mantissa : ℚ) ≤ x
  high : x < em.mantissa + 1
  exact : x = em.mantissa → em.roundBit = false ∧ em.stickyBit = false

theorem brackets_exact (m : ℕ) : Brackets (.ofMantissaAndAccuracy m .exact) m :=
  ⟨le_rfl, by simp [ExtendedMantissa.ofMantissaAndAccuracy], fun _ => ⟨rfl, rfl⟩⟩

theorem mantissa_ofAccuracy (m : ℕ) (accuracy : Accuracy) :
    (ExtendedMantissa.ofMantissaAndAccuracy m accuracy).mantissa = m := by
  rcases accuracy with _ | (_ | _ | _) <;> rfl

theorem brackets_fraction {num den : ℕ} (hden : 0 < den) :
    Brackets (.ofMantissaAndAccuracy (num / den) (accuracyOfFraction (num % den) den))
      ((num : ℚ) / den) := by
  have hpos : (0 : ℚ) < den := by exact_mod_cast hden
  have hsplit : (num : ℚ) / den = (num / den : ℕ) + (num % den : ℕ) / den := by
    rw [eq_comm, ← sub_eq_zero, add_div' _ _ _ hpos.ne', div_sub_div_same, div_eq_zero_iff]
    left
    have : ((num / den * den + num % den : ℕ) : ℚ) = num := by
      exact_mod_cast congrArg Nat.cast (Nat.div_add_mod' num den)
    push_cast at this
    linarith
  have hrest : ((num % den : ℕ) : ℚ) / den < 1 := by
    rw [div_lt_one hpos]
    exact_mod_cast Nat.mod_lt num hden
  have hrest' : (0 : ℚ) ≤ (num % den : ℕ) / den := by positivity
  refine ⟨?_, ?_, fun heq => ?_⟩
  · rw [mantissa_ofAccuracy]
    linarith
  · rw [mantissa_ofAccuracy]
    linarith
  · rw [mantissa_ofAccuracy] at heq
    have hzero : ((num % den : ℕ) : ℚ) = 0 := by
      rw [hsplit, add_eq_left, div_eq_zero_iff] at heq
      exact heq.resolve_right hpos.ne'
    have hmod : num % den = 0 := by exact_mod_cast hzero
    rw [hmod]
    exact ⟨rfl, rfl⟩

theorem Brackets.shiftRightOne {em : ExtendedMantissa} (h : Brackets em x) :
    Brackets em.shiftRightOne (x / 2) := by
  obtain ⟨hlow, hhigh, hexact⟩ := h
  have hsplit : (em.mantissa : ℚ) = 2 * (em.mantissa / 2 : ℕ) + (em.mantissa % 2 : ℕ) := by
    exact_mod_cast (Nat.div_add_mod em.mantissa 2).symm
  have hbit : ((em.mantissa % 2 : ℕ) : ℚ) ≤ 1 := by
    exact_mod_cast Nat.lt_succ_iff.mp (Nat.mod_lt em.mantissa two_pos)
  have hbit' : (0 : ℚ) ≤ (em.mantissa % 2 : ℕ) := Nat.cast_nonneg _
  refine ⟨?_, ?_, fun heq => ?_⟩
  · change ((em.mantissa / 2 : ℕ) : ℚ) ≤ x / 2
    linarith
  · change x / 2 < ((em.mantissa / 2 : ℕ) : ℚ) + 1
    linarith
  · change x / 2 = ((em.mantissa / 2 : ℕ) : ℚ) at heq
    have hzero : ((em.mantissa % 2 : ℕ) : ℚ) = 0 := by linarith
    have heven : em.mantissa % 2 = 0 := by exact_mod_cast hzero
    obtain ⟨hround, hsticky⟩ := hexact (by linarith)
    simp [ExtendedMantissa.shiftRightOne, heven, hround, hsticky]

theorem Brackets.shiftRight {em : ExtendedMantissa} (h : Brackets em x) (n : ℕ) :
    Brackets (em >>> n) (x / 2 ^ n) := by
  change Brackets (n.repeat ExtendedMantissa.shiftRightOne em) _
  induction n with
  | zero => simpa [Nat.repeat] using h
  | succ n ih =>
      have hshift := ih.shiftRightOne
      rw [div_div, ← pow_succ] at hshift
      exact hshift

theorem Brackets.rounded {em : ExtendedMantissa} (h : Brackets em x) :
    em.roundedMantissa = em.mantissa ∨
      em.roundedMantissa = em.mantissa + 1 ∧ (em.mantissa : ℚ) < x := by
  obtain ⟨hlow, hhigh, hexact⟩ := h
  have hstrict : em.roundBit = true → (em.mantissa : ℚ) < x := fun hround =>
    lt_of_le_of_ne hlow fun heq => by simp [(hexact heq.symm).1] at hround
  obtain ⟨m, round, sticky⟩ := em
  cases round with
  | false => cases sticky <;> exact Or.inl rfl
  | true =>
      cases sticky with
      | true => exact Or.inr ⟨rfl, hstrict rfl⟩
      | false =>
          change m + m % 2 = m ∨ m + m % 2 = m + 1 ∧ _
          rcases Nat.mod_two_eq_zero_or_one m with heven | hodd
          · exact Or.inl (by rw [heven, Nat.add_zero])
          · exact Or.inr ⟨by rw [hodd], hstrict rfl⟩

/-- A mantissa as long as it may be with an exponent. -/
structure Full (m : ℕ) (e : ℤ) : Prop where
  short : m < 2 ^ 53
  low : -1074 ≤ e
  long : 2 ^ 52 ≤ m ∨ e = -1074

def signed (s : Sign) (v : ℚ) : ℚ :=
  match s with
  | .negative => -v
  | .positive => v

/-- The number that a float stands for, if it is one and is in its normal form. -/
def Denotes : UnpackedFloat → ℚ → Prop
  | .zero _, v => v = 0
  | .finite s m e _, v => Full m e ∧ v = signed s (m * 2 ^ e)
  | _, _ => False

theorem Rounds.signed (h : Rounds x r) (s : Sign) : Rounds (signed s x) (signed s r) := by
  cases s with
  | negative => exact h.neg
  | positive => exact h

/-- The exponent that the mantissa of a number is shifted to. -/
def target (m : ℕ) (e : ℤ) : ℤ := Format.binary64.targetExponent (totalExponent m e)

theorem target_eq (m : ℕ) (e : ℤ) : target m e = max (m.log2 + 1 + e - 53) (-1074) := rfl

theorem shiftToTargetExponent_eq (m : ℕ) {e : ℤ} (accuracy : Accuracy) (he : e ≤ target m e) :
    shiftToTargetExponent Format.binary64 m e accuracy =
      (ExtendedMantissa.ofMantissaAndAccuracy m accuracy >>> (target m e - e).toNat,
        target m e) := by
  change (ExtendedMantissa.ofMantissaAndAccuracy m accuracy >>> (target m e - e).toNat,
    e + ((target m e - e).toNat : ℤ)) = _
  rw [Int.toNat_of_nonneg (by omega), add_sub_cancel]

/-- What is shifted after rounding is no more than a mantissa that has become a power of two. -/
theorem full_of_carry (he : -1074 ≤ e) (hk : k ≤ 2 ^ 53) (hlong : 2 ^ 52 ≤ k ∨ e = -1074) :
    ∃ m' e', shiftToTargetExponent Format.binary64 k e .exact = (⟨m', false, false⟩, e') ∧
      Full m' e' ∧ (m' : ℚ) * 2 ^ e' = k * 2 ^ e := by
  rcases hk.lt_or_eq with hlt | rfl
  · have hlog : k.log2 < 53 := by
      by_cases hzero : k = 0
      · simp [hzero]
      · exact (Nat.log2_lt hzero).mpr hlt
    have hshift : (Format.binary64.targetExponent (totalExponent k e) - e).toNat = 0 := by
      change (target k e - e).toNat = 0
      rw [target_eq]
      omega
    refine ⟨k, e, ?_, ⟨hlt, he, hlong⟩, rfl⟩
    simp only [shiftToTargetExponent, shiftToExponent, hshift]
    exact Prod.ext rfl (add_zero e)
  · have hshift : Format.binary64.targetExponent (totalExponent (2 ^ 53) e) = e + 1 := by
      change target (2 ^ 53) e = e + 1
      rw [target_eq, Nat.log2_two_pow]
      omega
    refine ⟨2 ^ 52, e + 1, ?_, ⟨by norm_num, by omega, Or.inl le_rfl⟩, ?_⟩
    · simp only [shiftToTargetExponent, shiftToExponent, hshift, add_sub_cancel_left]
      rfl
    · rw [zpow_add₀ two_ne_zero]
      push_cast
      ring

/-- The mantissa has all its bits, or the exponent is so low that they do not matter. -/
theorem le_target (hbits : e ≤ -1074 ∨ 2 ^ 52 ≤ m) : e ≤ target m e := by
  rcases hbits with hlow | hlong
  · exact hlow.trans (le_max_right _ _)
  · have hle : 52 ≤ m.log2 := (Nat.le_log2 (by omega)).mpr hlong
    rw [target_eq]
    omega

/-- The whole part that is left when a mantissa is shifted to its exponent is as long as it may
be. -/
theorem full_of_target {n : ℕ} {em : ExtendedMantissa} (hn : target m e = e + n)
    (hm : (m : ℚ) ≤ x) (hx : x < m + 1) (hem : Brackets em (x / 2 ^ n)) :
    Full em.mantissa (target m e) := by
  have hlog : m < 2 ^ (m.log2 + 1) := Nat.lt_log2_self
  have heq := hn
  rw [target_eq] at heq
  have hpos : (0 : ℚ) < 2 ^ n := by positivity
  refine ⟨?_, le_max_right _ _, ?_⟩
  · have hpow : 2 ^ (m.log2 + 1) ≤ 2 ^ (53 + n) := Nat.pow_le_pow_right two_pos (by omega)
    have hbound : (m : ℚ) + 1 ≤ 2 ^ 53 * 2 ^ n := by
      rw [← pow_add]
      exact_mod_cast hlog.trans_le hpow
    have hlow : (em.mantissa : ℚ) < 2 ^ 53 := by
      refine lt_of_le_of_lt hem.low ?_
      rw [div_lt_iff₀ hpos]
      exact hx.trans_le hbound
    exact_mod_cast hlow
  · by_cases hleast : target m e = -1074
    · exact Or.inr hleast
    · left
      have hexponent : m.log2 = 52 + n := by
        rw [target_eq] at hleast
        omega
      have hne : m ≠ 0 := by
        rintro rfl
        rw [Nat.log2_zero] at hexponent
        omega
      have hpow : (2 : ℚ) ^ 52 * 2 ^ n ≤ m := by
        rw [← pow_add, ← hexponent]
        exact_mod_cast Nat.log2_self_le hne
      have hhigh : (2 : ℚ) ^ 52 < em.mantissa + 1 := by
        refine lt_of_le_of_lt ?_ hem.high
        rw [le_div_iff₀ hpos]
        exact hpow.trans hm
      exact Nat.lt_succ_iff.mp (by exact_mod_cast hhigh)

/-- **Rounding keeps a number on its side of every representable one.** -/
theorem roundWithAccuracy_rounds {accuracy : Accuracy} (s : Sign)
    (hbits : e ≤ -1074 ∨ 2 ^ 52 ≤ m) (hx : Brackets (.ofMantissaAndAccuracy m accuracy) x) :
    ∃ r, Rounds (signed s (x * 2 ^ e)) r ∧
      Denotes (roundWithAccuracy Format.binary64 s m e accuracy) r := by
  have htarget := le_target hbits
  obtain ⟨n, hn⟩ := Int.eq_ofNat_of_zero_le (sub_nonneg.mpr htarget)
  have hshift : (target m e - e).toNat = n := by omega
  have hsum : target m e = e + n := by omega
  obtain ⟨em, hem⟩ : ∃ em, em = ExtendedMantissa.ofMantissaAndAccuracy m accuracy >>> n := ⟨_, rfl⟩
  have hbrackets : Brackets em (x / 2 ^ n) := hem ▸ hx.shiftRight n
  have hlow := hx.low
  have hhigh := hx.high
  rw [mantissa_ofAccuracy] at hlow hhigh
  have hfull := full_of_target hsum hlow hhigh hbrackets
  have hvalue : x / 2 ^ n * 2 ^ target m e = x * 2 ^ e := by
    rw [hsum, zpow_add₀ two_ne_zero, zpow_natCast, mul_comm ((2 : ℚ) ^ e), ← mul_assoc,
      div_mul_cancel₀ x (by positivity)]
  have hrounds := rounds_of_adjacent hfull.low hfull.long hfull.short hbrackets.low
    hbrackets.rounded hbrackets.high
  rw [hvalue] at hrounds
  have hcarried : em.roundedMantissa ≤ 2 ^ 53 ∧
      (2 ^ 52 ≤ em.roundedMantissa ∨ target m e = -1074) := by
    have hshort := hfull.short
    have hlong := hfull.long
    rcases hbrackets.rounded with heq | ⟨heq, -⟩ <;> rw [heq] <;> omega
  obtain ⟨m', e', hcarry, hfull', hsame⟩ := full_of_carry hfull.low hcarried.1 hcarried.2
  refine ⟨signed s (em.roundedMantissa * 2 ^ target m e), hrounds.signed s, ?_⟩
  simp only [roundWithAccuracy, shiftToTargetExponent_eq m accuracy htarget, hshift, ← hem, hcarry]
  rw [← hsame]
  split_ifs with hzero
  · subst hzero
    cases s <;> simp [Denotes, Binary64.signed]
  · exact ⟨hfull', rfl⟩

theorem Representable.rounds_self (h : Representable x) : Rounds x x :=
  ⟨h, fun _ _ hu => hu, fun _ _ hu => hu⟩

theorem round_rounds (s : Sign) (hm : 0 < m) (e : ℤ) :
    ∃ r, Rounds (signed s (m * 2 ^ e)) r ∧
      Denotes (UnpackedFloat.round Format.binary64 s m e) r := by
  have hlog : 2 ^ m.log2 ≤ m := Nat.log2_self_le hm.ne'
  rcases le_or_gt e (target m e) with hle | hgt
  · have hshift : (e - Format.binary64.targetExponent (totalExponent m e)).toNat = 0 := by
      change (e - target m e).toNat = 0
      omega
    have hbits : e ≤ -1074 ∨ 2 ^ 52 ≤ m := by
      rw [target_eq] at hle
      by_cases hlow : e ≤ -1074
      · exact Or.inl hlow
      · exact Or.inr ((Nat.pow_le_pow_right two_pos (by omega)).trans hlog)
    simp only [UnpackedFloat.round, decreaseExponent, hshift, Nat.shiftLeft_zero, Nat.cast_zero,
      sub_zero]
    exact roundWithAccuracy_rounds s hbits (brackets_exact m)
  · obtain ⟨n, hn⟩ := Int.eq_ofNat_of_zero_le (sub_nonneg.mpr hgt.le)
    have hshift : (e - Format.binary64.targetExponent (totalExponent m e)).toNat = n := by
      change (e - target m e).toNat = n
      omega
    have hbits : e - n ≤ -1074 ∨ 2 ^ 52 ≤ m * 2 ^ n := by
      rw [target_eq] at hn
      by_cases hlow : e - n ≤ -1074
      · exact Or.inl hlow
      · have hsum : 52 = m.log2 + n := by omega
        rw [hsum, pow_add]
        exact Or.inr (Nat.mul_le_mul_right _ hlog)
    have hvalue : ((m * 2 ^ n : ℕ) : ℚ) * 2 ^ (e - n) = m * 2 ^ e := by
      rw [zpow_sub₀ two_ne_zero, zpow_natCast]
      push_cast
      rw [mul_assoc, mul_div_cancel₀ _ (by positivity)]
    have hrounds := roundWithAccuracy_rounds s hbits (brackets_exact (m * 2 ^ n))
    rw [hvalue] at hrounds
    simp only [UnpackedFloat.round, decreaseExponent, hshift, Nat.shiftLeft_eq]
    exact hrounds

theorem normalize_rounds (n e : ℤ) (zeroSign : Sign) :
    ∃ r, Rounds (n * 2 ^ e) r ∧ Denotes (UnpackedFloat.normalize Format.binary64 n e zeroSign) r := by
  rcases lt_trichotomy n 0 with hneg | rfl | hpos
  · have hvalue : signed .negative (((-n).toNat : ℚ) * 2 ^ e) = n * 2 ^ e := by
      have hcast : (((-n).toNat : ℤ) : ℚ) = -n := by
        rw [Int.toNat_of_nonneg (by omega)]
        push_cast
        rfl
      rw [Int.cast_natCast] at hcast
      rw [signed, hcast]
      ring
    have hrounds := round_rounds .negative (m := (-n).toNat) (by omega) e
    rw [hvalue] at hrounds
    simp only [UnpackedFloat.normalize, Int.compare_eq_lt.mpr hneg]
    exact hrounds
  · exact ⟨0, by simpa using representable_zero.rounds_self, rfl⟩
  · have hvalue : signed .positive ((n.toNat : ℚ) * 2 ^ e) = n * 2 ^ e := by
      have hcast : ((n.toNat : ℤ) : ℚ) = n := by rw [Int.toNat_of_nonneg hpos.le]
      rw [Int.cast_natCast] at hcast
      rw [signed, hcast]
    have hrounds := round_rounds .positive (m := n.toNat) (by omega) e
    rw [hvalue] at hrounds
    simp only [UnpackedFloat.normalize, Int.compare_eq_gt.mpr hpos]
    exact hrounds

end RegistryOperator.Binary64
