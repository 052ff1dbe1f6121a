import Mathlib.Data.Finset.Max
import Mathlib.Order.Interval.Finset.Fin
import Mathlib.Tactic.Linarith
import RegistryOperator.Proofs.Backoff.Exact
import RegistryOperator.Proofs.Backoff.Turns

/-! When a token bucket lets calls through, in exact arithmetic. The bucket keeps one balance, and a
call is let through when it is made up for. Counted in the tokens that came in since time began,
that is the clock of the bucket: each call sets it on by one token at least, a call is let through
no earlier than it shows, and it falls behind the time by no more than the burst. So in any window
no more calls are let through than the burst and the rate allow. -/

namespace RegistryOperator.TokenBucket

variable {b : TokenBucket Exact} {now : Duration} {times : List Duration} {r : ℚ} {k : ℕ}

/-! ### One call -/

/-- The wait for a token, in seconds. -/
def wait (b : TokenBucket Exact) (now : Duration) : ℚ := ((b.reserve now).1.map Exact.val).getD 0

/-- The moment at which a call is let through. -/
def release (b : TokenBucket Exact) (now : Duration) : ℚ := now.exact + b.wait now

/-- The count of all tokens that came in, at which the last call is let through. -/
def clock (b : TokenBucket Exact) : ℚ := b.qps.val * b.last.exact - b.tokens.val

theorem reserve_pos (hqps : 0 < b.qps.val) (now : Duration) : 0 < (b.reserve now).2.qps.val := by
  rwa [reserve_qps]

/-- A bucket that gets a call keeps its burst, and takes the token when there is one or ahead of its
time. -/
theorem reserve_exact (hqps : 0 < b.qps.val) (now : Duration) :
    (b.reserve now).2.burst = b.burst ∧ (b.reserve now).2.last = now ∧
    (b.reserve now).2.tokens.val = min (b.tokens.val +
      (⟨now.nanos - b.last.nanos⟩ : Duration).exact * b.qps.val) b.burst.val - 1 ∧
    b.wait now = max 0 (-(b.reserve now).2.tokens.val / b.qps.val) := by
  have hrate : ¬Quantity.atMost b.qps (Quantity.ofNat 0) = true := by
    rw [Exact.atMost_iff, Exact.val_ofNat, Nat.cast_zero]
    exact not_le.mpr hqps
  unfold wait reserve
  rw [if_neg hrate]
  dsimp only
  split_ifs with hthere
  · rw [Exact.atMost_iff, Exact.val_ofNat, Nat.cast_zero] at hthere
    refine ⟨rfl, rfl, by simp, (max_eq_left ?_).symm⟩
    exact div_nonpos_of_nonpos_of_nonneg (neg_nonpos.mpr hthere) hqps.le
  · rw [Exact.atMost_iff, Exact.val_ofNat, Nat.cast_zero, not_le] at hthere
    refine ⟨rfl, rfl, by simp, (max_eq_right ?_).symm⟩
    exact div_nonneg (neg_nonneg.mpr hthere.le) hqps.le

theorem le_release (hqps : 0 < b.qps.val) (now : Duration) : now.exact ≤ b.release now := by
  obtain ⟨_, _, _, hwait⟩ := reserve_exact hqps now
  rw [release, hwait]
  exact le_add_of_nonneg_right (le_max_left _ _)

/-- A call is let through when the clock says so, but not before it comes. -/
theorem release_eq (hqps : 0 < b.qps.val) (now : Duration) :
    b.qps.val * b.release now = max (b.qps.val * now.exact) (b.reserve now).2.clock := by
  obtain ⟨_, hlast, _, hwait⟩ := reserve_exact hqps now
  rw [release, hwait, clock, reserve_qps, hlast, mul_add, mul_max_of_nonneg _ _ hqps.le, mul_zero,
    mul_div_cancel₀ _ hqps.ne', ← max_add_add_left, add_zero, sub_eq_add_neg]

/-- Each call sets the clock on. -/
theorem clock_reserve (hqps : 0 < b.qps.val) (hlast : b.last.nanos ≤ now.nanos) :
    b.clock + 1 ≤ (b.reserve now).2.clock := by
  obtain ⟨_, hnow, htokens, _⟩ := reserve_exact hqps now
  have helapsed : (⟨now.nanos - b.last.nanos⟩ : Duration).exact = now.exact - b.last.exact := by
    rw [Duration.exact, Duration.exact, Duration.exact, Nat.cast_sub hlast, sub_div]
  have hmin := min_le_left (b.tokens.val + (now.exact - b.last.exact) * b.qps.val) b.burst.val
  rw [clock, clock, reserve_qps, hnow, htokens, helapsed]
  linarith

/-- The clock falls behind the time by no more than the burst. -/
theorem le_clock (hqps : 0 < b.qps.val) (now : Duration) :
    b.qps.val * now.exact ≤ (b.reserve now).2.clock + (b.burst.val - 1) := by
  obtain ⟨_, hnow, htokens, _⟩ := reserve_exact hqps now
  have hmin := min_le_right (b.tokens.val +
    (⟨now.nanos - b.last.nanos⟩ : Duration).exact * b.qps.val) b.burst.val
  rw [clock, reserve_qps, hnow, htokens]
  linarith

/-! ### Calls at some times -/

/-- When calls at these times are let through. -/
def releases (b : TokenBucket Exact) : List Duration → List ℚ
  | [] => []
  | now :: times => b.release now :: (b.reserve now).2.releases times

theorem le_releases (hqps : 0 < b.qps.val) (times : List Duration) :
    List.Forall₂ (fun now r => now.exact ≤ r) times (b.releases times) := by
  induction times generalizing b with
  | nil => exact .nil
  | cons now times ih => exact .cons (le_release hqps now) (ih (reserve_pos hqps now))

/-- Every later call is let through later by the clock of the bucket. -/
theorem clock_le_releases (hqps : 0 < b.qps.val) (hlast : ∀ now ∈ times, b.last.nanos ≤ now.nanos)
    (htimes : times.Pairwise (·.nanos ≤ ·.nanos)) (hk : (b.releases times)[k]? = some r) :
    b.clock + (k + 1) ≤ b.qps.val * r := by
  induction times generalizing b k with
  | nil => cases hk
  | cons now times ih =>
      obtain ⟨_, hnow, _, _⟩ := reserve_exact hqps now
      obtain ⟨hle, hrest⟩ := List.pairwise_cons.mp htimes
      have hstep := clock_reserve hqps (hlast now List.mem_cons_self)
      cases k with
      | zero =>
          cases hk
          rw [release_eq hqps, Nat.cast_zero, zero_add]
          exact hstep.trans (le_max_right _ _)
      | succ k =>
          have hlater := ih (reserve_pos hqps now) (by rwa [hnow]) hrest hk
          rw [reserve_qps] at hlater
          push_cast
          linarith

theorem exact_le_of_mem (hqps : 0 < b.qps.val) (hnow : ∀ t ∈ times, now.nanos ≤ t.nanos)
    (hr : r ∈ b.releases times) : now.exact ≤ r := by
  induction times generalizing b with
  | nil => cases hr
  | cons t times ih =>
      obtain ⟨hfirst, hrest⟩ := List.forall_mem_cons.mp hnow
      rcases List.mem_cons.mp hr with rfl | hr
      · exact (Duration.exact_mono hfirst).trans (le_release hqps t)
      · exact ih (reserve_pos hqps t) hrest hr

/-- No later call is let through before the first one. -/
theorem release_le_of_mem (hqps : 0 < b.qps.val) (hnow : ∀ t ∈ times, now.nanos ≤ t.nanos)
    (htimes : times.Pairwise (·.nanos ≤ ·.nanos)) (hr : r ∈ (b.reserve now).2.releases times) :
    b.release now ≤ r := by
  obtain ⟨_, hlast, _, _⟩ := reserve_exact hqps now
  obtain ⟨k, hk⟩ := List.mem_iff_getElem?.mp hr
  have hpos := reserve_pos hqps now
  have hcome := exact_le_of_mem hpos hnow hr
  have hclock := clock_le_releases hpos (by rwa [hlast]) htimes hk
  rw [reserve_qps] at hclock
  refine le_of_mul_le_mul_left ?_ hqps
  rw [release_eq hqps, max_le_iff]
  refine ⟨mul_le_mul_of_nonneg_left hcome hqps.le, le_trans ?_ hclock⟩
  exact le_add_of_nonneg_right (by positivity)

/-- Calls are let through in the order in which they come. -/
theorem pairwise_releases (hqps : 0 < b.qps.val) (htimes : times.Pairwise (·.nanos ≤ ·.nanos)) :
    (b.releases times).Pairwise (· ≤ ·) := by
  induction times generalizing b with
  | nil => exact .nil
  | cons now times ih =>
      obtain ⟨hle, hrest⟩ := List.pairwise_cons.mp htimes
      exact .cons (fun r hr => release_le_of_mem hqps hle hrest hr)
        (ih (reserve_pos hqps now) hrest)

/-- From one call to another no more are let through than the burst and the rate allow. -/
theorem count_le (hqps : 0 < b.qps.val) (htimes : times.Pairwise (·.nanos ≤ ·.nanos)) {i j : ℕ}
    {first last : ℚ} (hij : i ≤ j) (hi : (b.releases times)[i]? = some first)
    (hj : (b.releases times)[j]? = some last) :
    (j - i + 1 : ℚ) ≤ max b.burst.val 1 + b.qps.val * (last - first) := by
  induction times generalizing b i j with
  | nil => cases hi
  | cons now times ih =>
      obtain ⟨hburst, hnow, _, _⟩ := reserve_exact hqps now
      obtain ⟨hle, hrest⟩ := List.pairwise_cons.mp htimes
      have hpos := reserve_pos hqps now
      cases i with
      | succ i =>
          cases j with
          | zero => cases hij
          | succ j =>
              have hlater := ih hpos hrest (Nat.le_of_succ_le_succ hij) hi hj
              rw [reserve_qps, hburst] at hlater
              push_cast
              linarith
      | zero =>
          cases hi
          -- The first call is let through by the clock at the latest, give or take the burst.
          have hfirst : b.qps.val * b.release now ≤
              (b.reserve now).2.clock + (max b.burst.val 1 - 1) := by
            rw [release_eq hqps, max_le_iff]
            have hclock := le_clock hqps now
            have hone := le_max_right b.burst.val 1
            have hmax := le_max_left b.burst.val 1
            exact ⟨by linarith, by linarith⟩
          cases j with
          | zero =>
              cases hj
              simp
          | succ j =>
              have hlater := clock_le_releases hpos (by rwa [hnow]) hrest hj
              rw [reserve_qps] at hlater
              push_cast
              linarith

/-! ### All calls -/

/-- If a rate and a burst bound the calls from any one to any other, they bound those in any
window. -/
theorem window_le {rs : List ℚ} {most qps : ℚ} (hmost : 0 ≤ most) (hqps : 0 ≤ qps)
    (hbetween : ∀ i j : Fin rs.length, i ≤ j →
      ((j - i + 1 : ℕ) : ℚ) ≤ most + qps * (rs[j] - rs[i]))
    {start stop : ℚ} (hle : start ≤ stop) :
    ((Finset.univ.filter fun k : Fin rs.length => start ≤ rs[k] ∧ rs[k] ≤ stop).card : ℚ) ≤
      most + qps * (stop - start) := by
  set window := Finset.univ.filter fun k : Fin rs.length => start ≤ rs[k] ∧ rs[k] ≤ stop
  rcases window.eq_empty_or_nonempty with hnone | hsome
  · rw [hnone, Finset.card_empty, Nat.cast_zero]
    exact add_nonneg hmost (mul_nonneg hqps (sub_nonneg.mpr hle))
  · have hmem (k : Fin rs.length) (hk : k ∈ window) : start ≤ rs[k] ∧ rs[k] ≤ stop :=
      (Finset.mem_filter.mp hk).2
    have hfirst := (hmem _ (window.min'_mem hsome)).1
    have hlast := (hmem _ (window.max'_mem hsome)).2
    have hij := window.min'_le_max' hsome
    -- All calls of the window are among those from its first to its last.
    have hcard : window.card ≤ (window.max' hsome : ℕ) - window.min' hsome + 1 := by
      have hsub : window ⊆ Finset.Icc (window.min' hsome) (window.max' hsome) := by
        intro k hk
        exact Finset.mem_Icc.mpr ⟨window.min'_le k hk, window.le_max' k hk⟩
      have hbound := Finset.card_le_card hsub
      have hle : (window.min' hsome : ℕ) ≤ window.max' hsome := hij
      rw [Fin.card_Icc] at hbound
      omega
    calc (window.card : ℚ)
        ≤ ((window.max' hsome - window.min' hsome + 1 : ℕ) : ℚ) := Nat.cast_le.mpr hcard
      _ ≤ most + qps * (rs[window.max' hsome] - rs[window.min' hsome]) := hbetween _ _ hij
      _ ≤ most + qps * (stop - start) := by gcongr

/-- **The bucket keeps to its burst and its rate.** Whenever a full bucket is asked for tokens, the
calls are let through in their order and none before it comes; from one call to another, both
counted, no more calls are let through than the burst, or one if that is none, and those for which
tokens come in between them; and the same holds of every window of time. -/
theorem releases_conform {qps : ℚ} (hqps : 0 < qps) (burst : ℕ) (created : Duration)
    {times : List Duration} (htimes : times.Pairwise (·.nanos ≤ ·.nanos)) :
    let rs := (full (⟨qps⟩ : Exact) burst created).releases times
    List.Forall₂ (fun now r => now.exact ≤ r) times rs ∧
    rs.Pairwise (· ≤ ·) ∧
    (∀ i j : Fin rs.length, i ≤ j →
      ((j - i + 1 : ℕ) : ℚ) ≤ max (burst : ℚ) 1 + qps * (rs[j] - rs[i])) ∧
    ∀ start stop : ℚ, start ≤ stop →
      ((Finset.univ.filter fun k : Fin rs.length => start ≤ rs[k] ∧ rs[k] ≤ stop).card : ℚ) ≤
        max (burst : ℚ) 1 + qps * (stop - start) := by
  intro rs
  have hbetween (i j : Fin rs.length) (hij : i ≤ j) :
      ((j - i + 1 : ℕ) : ℚ) ≤ max (burst : ℚ) 1 + qps * (rs[j] - rs[i]) := by
    have hij' : (i : ℕ) ≤ j := hij
    have hcount := count_le (b := full (⟨qps⟩ : Exact) burst created) hqps htimes hij'
      (List.getElem?_eq_getElem i.isLt) (List.getElem?_eq_getElem j.isLt)
    push_cast [hij']
    exact hcount
  refine ⟨le_releases hqps times, pairwise_releases hqps htimes, hbetween, ?_⟩
  intro start stop hle
  exact window_le (le_max_of_le_right zero_le_one) hqps.le hbetween hle

/-- Four calls at once to a bucket of two tokens, ten of which come in a second: two are let through
at once, one after a tenth of a second and one after two. The bound is met. -/
theorem releases_conform_burst :
    (full (⟨10⟩ : Exact) 2 .zero).releases (List.replicate 4 .zero) = [0, 0, 1 / 10, 2 / 10] ∧
    (4 : ℚ) ≤ max (2 : ℕ) 1 + 10 * (2 / 10 - 0) := by
  have hreleases : (full (⟨10⟩ : Exact) 2 .zero).releases (List.replicate 4 .zero) =
      [0, 0, 1 / 10, 2 / 10] := by decide +kernel
  have hqps : (0 : ℚ) < 10 := by norm_num
  have htimes : (List.replicate 4 Duration.zero).Pairwise (·.nanos ≤ ·.nanos) := by decide
  obtain ⟨_, _, hbetween, _⟩ := releases_conform hqps 2 .zero htimes
  have hall := hbetween ⟨0, by decide⟩ ⟨3, by decide⟩ (Nat.zero_le 3)
  simp only [Fin.getElem_fin, hreleases] at hall
  exact ⟨hreleases, hall⟩

end RegistryOperator.TokenBucket
