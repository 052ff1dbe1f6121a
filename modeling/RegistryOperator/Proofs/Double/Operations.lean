import RegistryOperator.Proofs.Double.Rounding
import RegistryOperator.Time.Duration

/-! Doubles and the numbers that they stand for. A double is a number, infinite, or not a number. If
two doubles are numbers, an operation on them gives the number that its exact result is rounded to,
or an infinite double if that is too large; and they are compared as the numbers are. -/

namespace RegistryOperator.Binary64

open Float.Model (UnpackedFloat Format)
open Float.Model.UnpackedFloat

variable {u : UnpackedFloat} {x y v w r : ℚ} {a b : Float}

/-- What the bits of a double hold. -/
def content (f : Float) : UnpackedFloat := f.toModel.unpack

/-- The double stands for a number. -/
def Is (f : Float) (v : ℚ) : Prop := Denotes (content f) v

/-- What the bits hold after a result has been stored in them. -/
def stored (u : UnpackedFloat) : UnpackedFloat := unpack Format.binary64 (pack Format.binary64 u)

theorem content_add : content (a + b) = stored (add Format.binary64 (content a) (content b)) := rfl

theorem content_sub : content (a - b) = stored (sub Format.binary64 (content a) (content b)) := rfl

theorem content_mul : content (a * b) = stored (mul Format.binary64 (content a) (content b)) := rfl

theorem content_div : content (a / b) = stored (div Format.binary64 (content a) (content b)) := rfl

theorem content_neg : content (-a) = stored (neg (content a)) := rfl

theorem toNat_implicit (f : BitVec 52) : (1#1 ++ f).toNat = 2 ^ 52 + f.toNat := by
  have hor := Nat.two_pow_add_eq_or_of_lt f.isLt 1
  rw [mul_one] at hor
  rw [BitVec.toNat_append, hor]
  rfl

theorem signed_abs (s : Sign) (v : ℚ) : |signed s v| = |v| := by
  cases s <;> simp [signed]

/-- The first number that is too large for a double. -/
def limit : ℚ := 2 ^ 1024

theorem limit_eq (n k : ℕ) (h : n + k = 1024) : limit = 2 ^ n * 2 ^ k := by
  rw [limit, ← pow_add, h]

theorem lt_limit (h : x ≤ 2 ^ 128) : x < limit := by
  refine h.trans_lt ?_
  rw [limit]
  exact pow_lt_pow_right₀ one_lt_two (by decide)

theorem limit_pos : 0 < limit := lt_limit (by norm_num)

theorem Full.abs_lt {m : ℕ} {e : ℤ} (h : Full m e) (he : e ≤ 971) (s : Sign) :
    |signed s (m * 2 ^ e)| < limit := by
  have hm : (m : ℚ) < 2 ^ 53 := by exact_mod_cast h.short
  rw [signed_abs, abs_of_nonneg (by positivity)]
  calc (m : ℚ) * 2 ^ e < 2 ^ 53 * 2 ^ e := by gcongr
    _ ≤ 2 ^ 53 * 2 ^ (971 : ℤ) := by gcongr; exact one_le_two
    _ = limit := (limit_eq 53 971 rfl).symm

theorem Full.le_abs {m : ℕ} {e : ℤ} (h : Full m e) (he : 971 < e) (s : Sign) :
    limit ≤ |signed s (m * 2 ^ e)| := by
  have hlong : 2 ^ 52 ≤ m := by
    rcases h.long with hlong | hleast
    · exact hlong
    · omega
  have hm : (2 : ℚ) ^ 52 ≤ m := by exact_mod_cast hlong
  rw [signed_abs, abs_of_nonneg (by positivity)]
  calc limit = 2 ^ 52 * 2 ^ (972 : ℤ) := limit_eq 52 972 rfl
    _ ≤ 2 ^ 52 * 2 ^ e := by gcongr; exact one_le_two; omega
    _ ≤ m * 2 ^ e := by gcongr

/-- What bits hold is a number, infinite or neither. -/
theorem unpack_cases (bits : BitVec 64) :
    unpack Format.binary64 bits = .notANumber ∨
      (∃ s, unpack Format.binary64 bits = .infinity s) ∨
      ∃ v, Denotes (unpack Format.binary64 bits) v ∧ |v| < limit := by
  obtain ⟨exponent, hexponent⟩ :
      ∃ exponent : BitVec 11, @unpackExponent Format.binary64 bits = exponent := ⟨_, rfl⟩
  obtain ⟨f, hf⟩ : ∃ f : BitVec 52, @unpackMantissa Format.binary64 bits = f := ⟨_, rfl⟩
  have hmantissa : f.toNat < 2 ^ 52 := f.isLt
  have hbias : (Format.binary64.exponentBias : ℤ) = 1023 := rfl
  unfold unpack
  simp only [hexponent, hf, hbias]
  split_ifs with hspecial hinfinite hleast hzero
  · exact Or.inr (Or.inl ⟨_, rfl⟩)
  · exact Or.inl rfl
  · exact Or.inr (Or.inr ⟨0, rfl, by rw [abs_zero]; exact limit_pos⟩)
  · have hnone : exponent.toNat = 0 := by
      rw [hleast]
      rfl
    have hfull : Full f.toNat ((exponent.toNat : ℤ) - (1023 + (52 : ℕ)) + 1) :=
      ⟨by omega, by omega, Or.inr (by omega)⟩
    exact Or.inr (Or.inr ⟨_, ⟨hfull, rfl⟩, hfull.abs_lt (by omega) _⟩)
  · have hlast : exponent.toNat ≠ 2 ^ 11 - 1 := fun heq => hspecial (BitVec.eq_of_toNat_eq heq)
    have hsome : exponent.toNat ≠ 0 := fun heq => hleast (BitVec.eq_of_toNat_eq heq)
    have hbound : exponent.toNat < 2 ^ 11 := exponent.isLt
    have hfull : Full (1#1 ++ f).toNat ((exponent.toNat : ℤ) - (1023 + (52 : ℕ))) := by
      rw [toNat_implicit]
      exact ⟨by omega, by omega, Or.inl (by omega)⟩
    exact Or.inr (Or.inr ⟨_, ⟨hfull, rfl⟩, hfull.abs_lt (by omega) _⟩)

theorem stored_notANumber : stored .notANumber = .notANumber := unpack_packedNaN

theorem stored_zero (s : Sign) : stored (.zero s) = .zero s := unpack_packedZero

theorem unpack_packedInfinity (s : Sign) :
    unpack Format.binary64 (packedInfinity Format.binary64 s) = .infinity s := by
  simp [unpack, packedInfinity]

theorem stored_infinity (s : Sign) : stored (.infinity s) = .infinity s := unpack_packedInfinity s

theorem stored_large {s : Sign} {m : ℕ} {e : ℤ} {hm : 0 < m} (he : 971 < e) :
    stored (.finite s m e hm) = .infinity s := by
  have hbiased : 2 ^ 11 ≤ (e + (1023 : ℕ) + (52 : ℕ)).toNat + 1 := by omega
  have hpack : pack Format.binary64 (.finite s m e hm) = packedInfinity Format.binary64 s :=
    if_pos hbiased
  rw [stored, hpack, unpack_packedInfinity]

theorem unpack_normal {s : Sign} {exponent : BitVec 11} {f : BitVec 52}
    (hspecial : exponent ≠ -1#11) (hleast : exponent ≠ 0#11) {m : ℕ} {e : ℤ} {hm : 0 < m}
    (hmantissa : m = 2 ^ 52 + f.toNat) (hexponent : e = exponent.toNat - 1075) :
    unpack Format.binary64 (packComponents Format.binary64 s exponent f) = .finite s m e hm := by
  subst hmantissa hexponent
  have himplicit := toNat_implicit f
  simp only [unpack, unpackMantissa_packComponents, unpackExponent_packComponents,
    unpackSign_packComponents, Sign.ofBitVec_toBitVec, hspecial, hleast, if_false]
  congr 1

theorem unpack_subnormal {s : Sign} {f : BitVec 52} {m : ℕ} {e : ℤ} {hm : 0 < m}
    (hmantissa : m = f.toNat) (hexponent : e = -1074) :
    unpack Format.binary64 (packComponents Format.binary64 s 0#11 f) = .finite s m e hm := by
  subst hmantissa hexponent
  have hzero : f ≠ 0#52 := by
    rintro rfl
    exact absurd hm (by decide)
  have hspecial : (0#11 : BitVec 11) ≠ -1#11 := by decide
  simp only [unpack, unpackMantissa_packComponents, unpackExponent_packComponents,
    unpackSign_packComponents, Sign.ofBitVec_toBitVec, hspecial, hzero, if_false, if_true, dif_neg,
    not_false_eq_true]
  congr 1

theorem stored_finite {s : Sign} {m : ℕ} {e : ℤ} {hm : 0 < m} (h : Full m e) (he : e ≤ 971) :
    stored (.finite s m e hm) = .finite s m e hm := by
  have hlow := h.low
  have hshort := h.short
  obtain ⟨b, hb⟩ : ∃ b, b = (e + (1023 : ℕ) + (52 : ℕ)).toNat := ⟨_, rfl⟩
  have hbiased : ¬2 ^ 11 ≤ b + 1 := by omega
  by_cases hlong : 2 ^ 52 ≤ m
  · have hlog : m.log2 + 1 = 53 := by
      have hge := (Nat.le_log2 hm.ne').mpr hlong
      have hlt := (Nat.log2_lt hm.ne').mpr hshort
      omega
    have hpack : pack Format.binary64 (.finite s m e hm) =
        packComponents Format.binary64 s (BitVec.ofNat 11 b) (BitVec.ofNat 52 m) := by
      rw [hb] at hbiased ⊢
      exact (if_neg hbiased).trans (if_pos hlog)
    have hexponent : (BitVec.ofNat 11 b).toNat = b := by
      rw [BitVec.toNat_ofNat, Nat.mod_eq_of_lt (by omega)]
    have hspecial : BitVec.ofNat 11 b ≠ -1#11 := fun heq => by
      have hlast : b = 2 ^ 11 - 1 := hexponent.symm.trans (congrArg BitVec.toNat heq)
      omega
    have hleast : BitVec.ofNat 11 b ≠ 0#11 := fun heq => by
      have hnone : b = 0 := hexponent.symm.trans (congrArg BitVec.toNat heq)
      omega
    rw [stored, hpack]
    refine unpack_normal hspecial hleast ?_ ?_
    · rw [BitVec.toNat_ofNat]
      omega
    · rw [hexponent]
      omega
  · have hlog : ¬m.log2 + 1 = 53 := by
      have hlt := (Nat.log2_lt hm.ne').mpr (not_le.mp hlong)
      omega
    have hpack : pack Format.binary64 (.finite s m e hm) =
        packComponents Format.binary64 s 0#11 (BitVec.ofNat 52 m) := by
      rw [hb] at hbiased
      exact (if_neg hbiased).trans (if_neg hlog)
    rw [stored, hpack]
    refine unpack_subnormal ?_ (h.long.resolve_left hlong)
    rw [BitVec.toNat_ofNat, Nat.mod_eq_of_lt (not_le.mp hlong)]

/-- The double that a rounded number becomes: it is infinite if the number is too large. -/
structure Becomes (f : Float) (v : ℚ) : Prop where
  finite : |v| < limit → Is f v
  positive : limit ≤ v → content f = .infinity .positive
  negative : v ≤ -limit → content f = .infinity .negative

theorem becomes_of_denotes {f : Float} (h : Denotes u v) (hf : content f = stored u) :
    Becomes f v := by
  have hpos := limit_pos
  cases u with
  | infinity s => exact h.elim
  | notANumber => exact h.elim
  | zero s =>
      have hv : v = 0 := h
      rw [stored_zero] at hf
      refine ⟨fun _ => ?_, fun hlarge => ?_, fun hlarge => ?_⟩
      · rw [Is, hf]
        exact hv
      · linarith
      · linarith
  | finite s m e hm =>
      obtain ⟨hfull, hv⟩ := h
      rcases le_or_gt e 971 with hle | hgt
      · have hsmall : |v| < limit := hv ▸ hfull.abs_lt hle s
        obtain ⟨hlow, hhigh⟩ := abs_lt.mp hsmall
        rw [stored_finite hfull hle] at hf
        refine ⟨fun _ => ?_, fun hlarge => ?_, fun hlarge => ?_⟩
        · rw [Is, hf]
          exact ⟨hfull, hv⟩
        · linarith
        · linarith
      · have hlarge : limit ≤ |v| := hv ▸ hfull.le_abs hgt s
        have hmagnitude : (0 : ℚ) ≤ m * 2 ^ e := by positivity
        rw [stored_large hgt] at hf
        refine ⟨fun hsmall => absurd hlarge (not_le.mpr hsmall), fun hpositive => ?_,
          fun hnegative => ?_⟩
        · cases s with
          | positive => exact hf
          | negative =>
              rw [hv, signed] at hpositive
              linarith
        · cases s with
          | negative => exact hf
          | positive =>
              rw [hv, signed] at hnegative
              linarith

theorem Becomes.is {f : Float} (h : Becomes f v) (hlow : 0 ≤ v) (hhigh : v ≤ 2 ^ 128) : Is f v :=
  h.finite (by
    rw [abs_of_nonneg hlow]
    exact lt_limit hhigh)

theorem Denotes.representable (h : Denotes u v) : Representable v := by
  cases u with
  | infinity s => exact h.elim
  | notANumber => exact h.elim
  | zero s =>
      have hv : v = 0 := h
      rw [hv]
      exact representable_zero
  | finite s m e hm =>
      obtain ⟨hfull, rfl⟩ := h
      have hmagnitude := representable_of_le hfull.short.le hfull.low
      cases s with
      | negative => exact hmagnitude.neg
      | positive => exact hmagnitude

theorem Denotes.unique (h : Denotes u v) (h' : Denotes u w) : v = w := by
  cases u with
  | infinity s => exact h.elim
  | notANumber => exact h.elim
  | zero s => exact Eq.trans h (Eq.symm h')
  | finite s m e hm => exact h.2.trans h'.2.symm

theorem Is.representable (h : Is a v) : Representable v := Denotes.representable h

theorem Is.unique (h : Is a v) (h' : Is a w) : v = w := Denotes.unique h h'

theorem Is.abs_lt (h : Is a v) : |v| < limit := by
  have hbits : content a = unpack Format.binary64 a.toModel.toBits.toBitVec := rfl
  rw [Is, hbits] at h
  rcases unpack_cases a.toModel.toBits.toBitVec with hnan | ⟨s, hinfinite⟩ | ⟨w, hw, hsmall⟩
  · rw [hnan] at h
    exact h.elim
  · rw [hinfinite] at h
    exact h.elim
  · rwa [h.unique hw]

section Arithmetic

variable {u' : UnpackedFloat}

theorem signed_apply (s : Sign) (m : ℕ) (e : ℤ) :
    signed s (m * 2 ^ e) = (s.apply m : ℤ) * 2 ^ e := by
  cases s <;> simp [signed, Sign.apply]

theorem decreaseExponent_value {m : ℕ} {e t : ℤ} (h : t ≤ e) :
    ((decreaseExponent m e t).1 : ℚ) * 2 ^ t = m * 2 ^ e := by
  obtain ⟨n, hn⟩ := Int.eq_ofNat_of_zero_le (sub_nonneg.mpr h)
  have he : e = t + n := by omega
  have hshift : (e - t).toNat = n := by omega
  simp only [decreaseExponent, hshift, Nat.shiftLeft_eq]
  rw [he, zpow_add₀ two_ne_zero, zpow_natCast]
  push_cast
  ring

theorem apply_decreaseExponent (s : Sign) {m : ℕ} {e t : ℤ} (h : t ≤ e) :
    ((s.apply (decreaseExponent m e t).1 : ℤ) : ℚ) * 2 ^ t = signed s (m * 2 ^ e) := by
  rw [← signed_apply, decreaseExponent_value h]

theorem add_denotes (h : Denotes u x) (h' : Denotes u' y) :
    ∃ r, Rounds (x + y) r ∧ Denotes (add Format.binary64 u u') r := by
  have hrx := h.representable.rounds_self
  have hry := h'.representable.rounds_self
  cases u with
  | infinity s => exact h.elim
  | notANumber => exact h.elim
  | zero s =>
      have hx : x = 0 := h
      cases u' with
      | infinity s' => exact h'.elim
      | notANumber => exact h'.elim
      | zero s' =>
          have hy : y = 0 := h'
          refine ⟨0, by simpa [hx, hy] using representable_zero.rounds_self, ?_⟩
          rw [add]
          split_ifs <;> rfl
      | finite s' m' e' hm' => exact ⟨y, by simpa [hx] using hry, h'⟩
  | finite s m e hm =>
      cases u' with
      | infinity s' => exact h'.elim
      | notANumber => exact h'.elim
      | zero s' =>
          have hy : y = 0 := h'
          exact ⟨x, by simpa [hy] using hrx, h⟩
      | finite s' m' e' hm' =>
          obtain ⟨-, rfl⟩ := h
          obtain ⟨-, rfl⟩ := h'
          have hsum := normalize_rounds (s.apply (decreaseExponent m e (min e e')).1 +
            s'.apply (decreaseExponent m' e' (min e e')).1) (min e e') .positive
          rw [Int.cast_add, add_mul, apply_decreaseExponent s (min_le_left e e'),
            apply_decreaseExponent s' (min_le_right e e')] at hsum
          exact hsum

theorem signed_neg (s : Sign) (v : ℚ) : signed (-s) v = -signed s v := by
  cases s
  · exact (neg_neg v).symm
  · rfl

theorem Denotes.neg (h : Denotes u x) : Denotes (neg u) (-x) := by
  cases u with
  | infinity s => exact h.elim
  | notANumber => exact h.elim
  | zero s =>
      have hx : x = 0 := h
      exact neg_eq_zero.mpr hx
  | finite s m e hm =>
      obtain ⟨hfull, rfl⟩ := h
      exact ⟨hfull, (signed_neg s _).symm⟩

theorem sub_eq_add (u u' : UnpackedFloat) :
    sub Format.binary64 u u' = add Format.binary64 u (neg u') := by
  have happly : ∀ (s : Sign) (n : ℤ), (-s).apply n = -s.apply n := fun s n => by
    cases s
    · exact (neg_neg n).symm
    · rfl
  cases u <;> cases u' <;> try rfl
  simp only [sub, add, neg, happly, Int.sub_eq_add_neg]

theorem sub_denotes (h : Denotes u x) (h' : Denotes u' y) :
    ∃ r, Rounds (x - y) r ∧ Denotes (sub Format.binary64 u u') r := by
  rw [sub_eq_add, sub_eq_add_neg]
  exact add_denotes h h'.neg

theorem signed_mul_signed (s s' : Sign) (v w : ℚ) :
    signed (s * s') (v * w) = signed s v * signed s' w := by
  cases s <;> cases s'
  · exact (neg_mul_neg v w).symm
  · exact (neg_mul v w).symm
  · exact (mul_neg v w).symm
  · rfl

theorem mul_denotes (h : Denotes u x) (h' : Denotes u' y) :
    ∃ r, Rounds (x * y) r ∧ Denotes (mul Format.binary64 u u') r := by
  cases u with
  | infinity s => exact h.elim
  | notANumber => exact h.elim
  | zero s =>
      have hx : x = 0 := h
      cases u' with
      | infinity s' => exact h'.elim
      | notANumber => exact h'.elim
      | zero s' => exact ⟨0, by simpa [hx] using representable_zero.rounds_self, rfl⟩
      | finite s' m' e' hm' => exact ⟨0, by simpa [hx] using representable_zero.rounds_self, rfl⟩
  | finite s m e hm =>
      cases u' with
      | infinity s' => exact h'.elim
      | notANumber => exact h'.elim
      | zero s' =>
          have hy : y = 0 := h'
          exact ⟨0, by simpa [hy] using representable_zero.rounds_self, rfl⟩
      | finite s' m' e' hm' =>
          obtain ⟨hfull, rfl⟩ := h
          obtain ⟨hfull', rfl⟩ := h'
          have hbits : e + e' ≤ -1074 ∨ 2 ^ 52 ≤ m * m' := by
            rcases hfull.long with hlong | hleast
            · exact Or.inr (hlong.trans (Nat.le_mul_of_pos_right m hm'))
            · rcases hfull'.long with hlong' | hleast'
              · exact Or.inr (hlong'.trans (Nat.le_mul_of_pos_left m' hm))
              · omega
          have hvalue : ((m * m' : ℕ) : ℚ) * 2 ^ (e + e') = m * 2 ^ e * (m' * 2 ^ e') := by
            rw [zpow_add₀ two_ne_zero]
            push_cast
            ring
          have hproduct := roundWithAccuracy_rounds (s * s') hbits (brackets_exact (m * m'))
          rw [hvalue, signed_mul_signed] at hproduct
          exact hproduct

theorem signed_div_signed (s s' : Sign) (v w : ℚ) :
    signed (s / s') (v / w) = signed s v / signed s' w := by
  cases s <;> cases s'
  · exact (neg_div_neg_eq v w).symm
  · exact (neg_div w v).symm
  · exact (div_neg v).symm
  · rfl

/-- The quotient that is rounded has all its bits, or its exponent is so low that they do not
matter. -/
theorem divCore_bits {m m' : ℕ} (hm : 0 < m) (hm' : 0 < m') (e e' : ℤ) :
    ∃ n : ℕ, ∃ t : ℤ, divCore Format.binary64 m e m' e' =
        (m * 2 ^ n / m', t, accuracyOfFraction (m * 2 ^ n % m') m') ∧
      e - e' = t + n ∧ (t ≤ -1074 ∨ 2 ^ 52 ≤ m * 2 ^ n / m') := by
  obtain ⟨t, ht⟩ : ∃ t, t = min (e - e') (max (m.log2 + 1 + e - (m'.log2 + 1 + e') - 53) (-1074)) :=
    ⟨_, rfl⟩
  obtain ⟨n, hn⟩ := Int.eq_ofNat_of_zero_le (show 0 ≤ e - e' - t by omega)
  have hshift : (e - e' - t).toNat = n := by omega
  refine ⟨n, t, ?_, by omega, ?_⟩
  · have htarget : min (e - e') (Format.binary64.targetExponent
        (Float.Model.totalExponent m e - Float.Model.totalExponent m' e')) = t := ht.symm
    simp only [divCore, htarget, hshift, Nat.shiftLeft_eq]
  · by_cases hlow : t ≤ -1074
    · exact Or.inl hlow
    · right
      have hlog : m'.log2 + 1 + 52 ≤ m.log2 + n := by omega
      have hpow : 2 ^ m.log2 ≤ m := Nat.log2_self_le hm.ne'
      have hpow' : m' < 2 ^ (m'.log2 + 1) := Nat.lt_log2_self
      rw [Nat.le_div_iff_mul_le hm']
      calc 2 ^ 52 * m' ≤ 2 ^ 52 * 2 ^ (m'.log2 + 1) := Nat.mul_le_mul_left _ hpow'.le
        _ = 2 ^ (m'.log2 + 1 + 52) := by rw [← pow_add, add_comm]
        _ ≤ 2 ^ (m.log2 + n) := Nat.pow_le_pow_right two_pos hlog
        _ = 2 ^ m.log2 * 2 ^ n := pow_add _ _ _
        _ ≤ m * 2 ^ n := Nat.mul_le_mul_right _ hpow

theorem div_denotes (h : Denotes u x) (h' : Denotes u' y) (hy : y ≠ 0) :
    ∃ r, Rounds (x / y) r ∧ Denotes (div Format.binary64 u u') r := by
  cases u' with
  | infinity s' => exact h'.elim
  | notANumber => exact h'.elim
  | zero s' => exact absurd h' hy
  | finite s' m' e' hm' =>
      cases u with
      | infinity s => exact h.elim
      | notANumber => exact h.elim
      | zero s =>
          have hx : x = 0 := h
          exact ⟨0, by simpa [hx] using representable_zero.rounds_self, rfl⟩
      | finite s m e hm =>
          obtain ⟨-, rfl⟩ := h
          obtain ⟨-, rfl⟩ := h'
          obtain ⟨n, t, hcore, ht, hbits⟩ := divCore_bits hm hm' e e'
          have hpos : (0 : ℚ) < m' := by exact_mod_cast hm'
          have hvalue : ((m * 2 ^ n : ℕ) : ℚ) / m' * 2 ^ t = m * 2 ^ e / (m' * 2 ^ e') := by
            have he : e = t + n + e' := by omega
            have hsplit : (m : ℚ) * 2 ^ e = m * 2 ^ n * 2 ^ t * 2 ^ e' := by
              rw [he, zpow_add₀ two_ne_zero, zpow_add₀ two_ne_zero, zpow_natCast]
              ring
            rw [hsplit, mul_div_mul_right _ _ (by positivity), div_mul_eq_mul_div]
            push_cast
            rfl
          have hquotient := roundWithAccuracy_rounds (s / s') hbits
            (brackets_fraction hm')
          rw [hvalue, signed_div_signed] at hquotient
          simpa only [div, hcore] using hquotient

end Arithmetic

section Order

variable {u' : UnpackedFloat} {m m' : ℕ} {e e' : ℤ}

theorem Full.lt_of_exponent_lt (h : Full m e) (h' : Full m' e') (he : e < e') :
    (m : ℚ) * 2 ^ e < m' * 2 ^ e' := by
  have hlow := h.low
  have hm : (m : ℚ) < 2 ^ 53 := by exact_mod_cast h.short
  have hm' : (2 : ℚ) ^ 52 ≤ m' := by
    rcases h'.long with hlong | hleast
    · exact_mod_cast hlong
    · omega
  calc (m : ℚ) * 2 ^ e < 2 ^ 53 * 2 ^ e := by gcongr
    _ = 2 ^ 52 * 2 ^ (e + 1) := by
      rw [zpow_add₀ two_ne_zero]
      ring
    _ ≤ 2 ^ 52 * 2 ^ e' := by
      gcongr
      · exact one_le_two
      · omega
    _ ≤ m' * 2 ^ e' := by gcongr

theorem Full.compare_isLE (h : Full m e) (h' : Full m' e') :
    ((compare e e').then (compare m m')).isLE = true ↔ (m : ℚ) * 2 ^ e ≤ m' * 2 ^ e' := by
  rcases lt_trichotomy e e' with hlt | rfl | hgt
  · rw [Int.compare_eq_lt.mpr hlt]
    exact iff_of_true rfl (h.lt_of_exponent_lt h' hlt).le
  · have hpos : (0 : ℚ) < 2 ^ e := by positivity
    rw [Int.compare_eq_eq.mpr rfl, mul_le_mul_iff_left₀ hpos, Nat.cast_le]
    exact Nat.isLE_compare
  · rw [Int.compare_eq_gt.mpr hgt]
    exact iff_of_false Bool.false_ne_true (not_le.mpr (h'.lt_of_exponent_lt h hgt))

theorem Full.unique (h : Full m e) (h' : Full m' e') (heq : (m : ℚ) * 2 ^ e = m' * 2 ^ e') :
    m = m' ∧ e = e' := by
  rcases lt_trichotomy e e' with hlt | rfl | hgt
  · exact absurd heq (h.lt_of_exponent_lt h' hlt).ne
  · have hm : (m : ℚ) = m' := mul_right_cancel₀ (by positivity) heq
    exact ⟨by exact_mod_cast hm, rfl⟩
  · exact absurd heq (h'.lt_of_exponent_lt h hgt).ne'

theorem Denotes.eq_of_pos (h : Denotes u v) (h' : Denotes u' v) (hv : 0 < v) : u = u' := by
  have hfinite : ∀ {u : UnpackedFloat}, Denotes u v →
      ∃ m e hm, u = .finite .positive m e hm ∧ Full m e ∧ v = m * 2 ^ e := by
    intro u hu
    cases u with
    | infinity s => exact hu.elim
    | notANumber => exact hu.elim
    | zero s => exact absurd hu hv.ne'
    | finite s m e hm =>
        obtain ⟨hfull, rfl⟩ := hu
        cases s with
        | positive => exact ⟨m, e, hm, rfl, hfull, rfl⟩
        | negative =>
            have hpos : (0 : ℚ) < m * 2 ^ e := by positivity
            rw [signed] at hv
            linarith
  obtain ⟨m, e, hm, rfl, hfull, hvalue⟩ := hfinite h
  obtain ⟨m', e', hm', rfl, hfull', hvalue'⟩ := hfinite h'
  obtain ⟨rfl, rfl⟩ := hfull.unique hfull' (hvalue.symm.trans hvalue')
  rfl

theorem neg_injective : Function.Injective UnpackedFloat.neg := by
  have hinvolutive : Function.Involutive UnpackedFloat.neg := fun u => by
    cases u with
    | notANumber => rfl
    | infinity s => cases s <;> rfl
    | zero s => cases s <;> rfl
    | finite s m e hm => cases s <;> rfl
  exact hinvolutive.injective

/-- A number other than zero is held in one way. -/
theorem Denotes.eq_of_ne (h : Denotes u v) (h' : Denotes u' v) (hv : v ≠ 0) : u = u' := by
  rcases lt_or_gt_of_ne hv with hneg | hpos
  · exact neg_injective (h.neg.eq_of_pos h'.neg (neg_pos.mpr hneg))
  · exact h.eq_of_pos h' hpos

theorem le_denotes (h : Denotes u x) (h' : Denotes u' y) : u.le u' = true ↔ x ≤ y := by
  cases u with
  | infinity s => exact h.elim
  | notANumber => exact h.elim
  | zero s =>
      have hx : x = 0 := h
      cases u' with
      | infinity s' => exact h'.elim
      | notANumber => exact h'.elim
      | zero s' =>
          have hy : y = 0 := h'
          exact iff_of_true rfl (by rw [hx, hy])
      | finite s' m' e' hm' =>
          obtain ⟨-, rfl⟩ := h'
          have hpos : (0 : ℚ) < m' * 2 ^ e' := by positivity
          subst hx
          cases s' with
          | positive => exact iff_of_true rfl hpos.le
          | negative => exact iff_of_false Bool.false_ne_true (by simpa [signed] using hpos)
  | finite s m e hm =>
      obtain ⟨hfull, rfl⟩ := h
      have hpos : (0 : ℚ) < m * 2 ^ e := by positivity
      cases u' with
      | infinity s' => exact h'.elim
      | notANumber => exact h'.elim
      | zero s' =>
          have hy : y = 0 := h'
          subst hy
          cases s with
          | positive => exact iff_of_false Bool.false_ne_true (not_le.mpr hpos)
          | negative => exact iff_of_true rfl (by simpa [signed] using hpos.le)
      | finite s' m' e' hm' =>
          obtain ⟨hfull', rfl⟩ := h'
          have hpos' : (0 : ℚ) < m' * 2 ^ e' := by positivity
          cases s <;> cases s'
          · rw [signed, signed, neg_le_neg_iff, ← hfull'.compare_isLE hfull]
            change (((compare e e').then (compare m m')).swap).isLE = true ↔ _
            rw [Ordering.swap_then, Int.compare_swap, Nat.compare_swap]
          · exact iff_of_true rfl (by simp only [signed]; linarith)
          · exact iff_of_false Bool.false_ne_true (by simp only [signed]; linarith)
          · exact hfull.compare_isLE hfull'

end Order

section Doubles

theorem le_iff : a ≤ b ↔ (content a).le (content b) = true := by
  change decide _ = true ↔ _
  rw [decide_eq_true_iff]
  rfl

theorem Is.le_iff (ha : Is a x) (hb : Is b y) : a ≤ b ↔ x ≤ y :=
  Binary64.le_iff.trans (le_denotes ha hb)

theorem Is.add (ha : Is a x) (hb : Is b y) : ∃ r, Rounds (x + y) r ∧ Becomes (a + b) r := by
  obtain ⟨r, hrounds, hr⟩ := add_denotes ha hb
  exact ⟨r, hrounds, becomes_of_denotes hr content_add⟩

theorem Is.sub (ha : Is a x) (hb : Is b y) : ∃ r, Rounds (x - y) r ∧ Becomes (a - b) r := by
  obtain ⟨r, hrounds, hr⟩ := sub_denotes ha hb
  exact ⟨r, hrounds, becomes_of_denotes hr content_sub⟩

theorem Is.mul (ha : Is a x) (hb : Is b y) : ∃ r, Rounds (x * y) r ∧ Becomes (a * b) r := by
  obtain ⟨r, hrounds, hr⟩ := mul_denotes ha hb
  exact ⟨r, hrounds, becomes_of_denotes hr content_mul⟩

theorem Is.div (ha : Is a x) (hb : Is b y) (hy : y ≠ 0) :
    ∃ r, Rounds (x / y) r ∧ Becomes (a / b) r := by
  obtain ⟨r, hrounds, hr⟩ := div_denotes ha hb hy
  exact ⟨r, hrounds, becomes_of_denotes hr content_div⟩

theorem Is.neg (ha : Is a x) : Is (-a) (-x) :=
  (becomes_of_denotes (Denotes.neg ha) content_neg).finite (by rw [abs_neg]; exact ha.abs_lt)

theorem toFloat_becomes (n : UInt64) : ∃ r, Rounds n.toNat r ∧ Becomes n.toFloat r := by
  obtain ⟨r, hrounds, hr⟩ := normalize_rounds n.toNat 0 .positive
  rw [zpow_zero, mul_one, Int.cast_natCast] at hrounds
  exact ⟨r, hrounds, becomes_of_denotes hr rfl⟩

theorem representable_natCast {n : ℕ} (hn : n ≤ 2 ^ 53) : Representable n := by
  have hrepresentable := representable_of_le hn (show (-1074 : ℤ) ≤ 0 by decide)
  rwa [zpow_zero, mul_one] at hrepresentable

/-- A whole number that has no more than 53 bits is not rounded. -/
theorem toFloat_is {n : UInt64} (hn : n.toNat ≤ 2 ^ 53) : Is n.toFloat n.toNat := by
  obtain ⟨r, hrounds, hr⟩ := toFloat_becomes n
  rw [hrounds.eq (representable_natCast hn)] at hr
  have hcast : (n.toNat : ℚ) ≤ 2 ^ 53 := by exact_mod_cast hn
  exact hr.is (Nat.cast_nonneg _) (hcast.trans (by norm_num))

/-- A double is a number, infinite or neither. -/
theorem content_cases (f : Float) :
    content f = .notANumber ∨ (∃ s, content f = .infinity s) ∨ ∃ v, Is f v := by
  rcases unpack_cases f.toModel.toBits.toBitVec with hnan | hinfinite | ⟨v, hv, -⟩
  · exact Or.inl hnan
  · exact Or.inr (Or.inl hinfinite)
  · exact Or.inr (Or.inr ⟨v, hv⟩)

theorem Is.zero_or_finite (h : Is a v) : (∃ s, content a = .zero s ∧ v = 0) ∨
    ∃ s m e hm, content a = .finite s m e hm ∧ v = signed s (m * 2 ^ e) := by
  rw [Is] at h
  cases hcontent : content a with
  | infinity s => exact (hcontent ▸ h : Denotes (.infinity s) v).elim
  | notANumber => exact (hcontent ▸ h : Denotes .notANumber v).elim
  | zero s => exact Or.inl ⟨s, rfl, (hcontent ▸ h : Denotes (.zero s) v)⟩
  | finite s m e hm =>
      exact Or.inr ⟨s, m, e, hm, rfl, (hcontent ▸ h : Denotes (.finite s m e hm) v).2⟩

theorem isFinite_iff : a.isFinite = true ↔ ∃ v, Is a v := by
  change (content a).isFinite = true ↔ ∃ v, Denotes (content a) v
  rcases content_cases a with hnan | ⟨s, hinfinite⟩ | ⟨v, hv⟩
  · rw [hnan]
    exact iff_of_false Bool.false_ne_true fun ⟨_, hv⟩ => hv
  · rw [hinfinite]
    exact iff_of_false Bool.false_ne_true fun ⟨_, hv⟩ => hv
  · refine iff_of_true ?_ ⟨v, hv⟩
    rcases Is.zero_or_finite hv with ⟨s, hcontent, -⟩ | ⟨s, m, e, hm, hcontent, -⟩
    · rw [hcontent]
      rfl
    · rw [hcontent]
      rfl

theorem isNaN_iff : a.isNaN = true ↔ content a = .notANumber := UnpackedFloat.isNaN_iff

theorem content_injective (h : content a = content b) : a = b := by
  have hbits := (unpack_inj_of_valid a.toModel.valid b.toModel.valid (by decide)).mp h
  exact Float.toBits_inj.mp (UInt64.toBitVec_inj.mp hbits)

theorem Is.eq_of_ne (ha : Is a v) (hb : Is b v) (hv : v ≠ 0) : a = b :=
  content_injective (Denotes.eq_of_ne ha hb hv)

end Doubles

section Bits

theorem toNat_unpackExponent (bits : BitVec 64) :
    (@unpackExponent Format.binary64 bits).toNat = bits.toNat / 2 ^ 52 % 2 ^ 11 := by
  rw [unpackExponent_def, BitVec.extractLsb'_toNat, Nat.shiftRight_eq_div_pow]

theorem toNat_unpackMantissa (bits : BitVec 64) :
    (@unpackMantissa Format.binary64 bits).toNat = bits.toNat % 2 ^ 52 := by
  rw [unpackMantissa_def, BitVec.extractLsb'_toNat, Nat.shiftRight_zero]

theorem sign_unpackSign (bits : BitVec 64) :
    (Sign.ofBitVec (@unpackSign Format.binary64 bits) == .negative) =
      decide (bits.toNat / 2 ^ 63 = 1) := by
  have htop : (@unpackSign Format.binary64 bits).toNat = bits.toNat / 2 ^ 63 := by
    rw [unpackSign_def, BitVec.extractLsb'_toNat, Nat.shiftRight_eq_div_pow]
    have hlt : bits.toNat < 2 ^ 64 := bits.isLt
    change bits.toNat / 2 ^ 63 % 2 ^ 1 = bits.toNat / 2 ^ 63
    omega
  rw [← htop]
  generalize @unpackSign Format.binary64 bits = top
  revert top
  decide

/-- What the bits stand for, as the reader of lengths of time takes them. -/
theorem ofBits_toBits (f : Float) : Decimal.Double.ofBits f.toBits =
    match content f with
    | .notANumber => .nan
    | .infinity s => .infinite (s == .negative)
    | .zero s => .finite ⟨s == .negative, 0, -1074⟩
    | .finite s m e _ => .finite ⟨s == .negative, m, e⟩ := by
  obtain ⟨bits, hbits⟩ : ∃ bits : BitVec 64, f.toBits.toBitVec = bits := ⟨_, rfl⟩
  have hnat : f.toBits.toNat = bits.toNat := congrArg BitVec.toNat hbits
  have hcontent : content f = unpack Format.binary64 bits := by
    rw [← hbits]
    rfl
  rw [hcontent, Decimal.Double.ofBits, hnat, ← toNat_unpackExponent, ← toNat_unpackMantissa,
    ← sign_unpackSign]
  have hbias : (Format.binary64.exponentBias : ℤ) = 1023 := rfl
  generalize hsign : Sign.ofBitVec (@unpackSign Format.binary64 bits) = sign
  obtain ⟨exponent, hexponent⟩ :
      ∃ exponent : BitVec 11, @unpackExponent Format.binary64 bits = exponent := ⟨_, rfl⟩
  obtain ⟨m, hm⟩ : ∃ m : BitVec 52, @unpackMantissa Format.binary64 bits = m := ⟨_, rfl⟩
  have hspecial : exponent = -1#11 ↔ exponent.toNat = 2047 :=
    ⟨fun heq => by rw [heq]; rfl, fun heq => BitVec.eq_of_toNat_eq heq⟩
  have hleast : exponent = 0#11 ↔ exponent.toNat = 0 :=
    ⟨fun heq => by rw [heq]; rfl, fun heq => BitVec.eq_of_toNat_eq heq⟩
  have hzero : m = 0#52 ↔ m.toNat = 0 :=
    ⟨fun heq => by rw [heq]; rfl, fun heq => BitVec.eq_of_toNat_eq heq⟩
  unfold unpack
  simp only [hexponent, hm, hbias, hsign]
  by_cases hone : exponent.toNat = 2047
  · rw [if_pos hone, if_pos (hspecial.mpr hone)]
    by_cases hnone : m.toNat = 0
    · rw [if_pos hnone, if_pos (hzero.mpr hnone)]
    · rw [if_neg hnone, if_neg (mt hzero.mp hnone)]
  · rw [if_neg hone, if_neg (mt hspecial.mp hone)]
    by_cases hlow : exponent.toNat = 0
    · rw [if_pos hlow, if_pos (hleast.mpr hlow)]
      by_cases hnone : m.toNat = 0
      · rw [dif_pos (hzero.mpr hnone), hnone]
      · rw [dif_neg (mt hzero.mp hnone), hlow]
        rfl
    · rw [if_neg hlow, if_neg (mt hleast.mp hlow)]
      simp only [toNat_implicit]
      rfl

end Bits

end RegistryOperator.Binary64
