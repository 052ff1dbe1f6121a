import RegistryOperator.Proofs.Backoff.Debt
import RegistryOperator.Proofs.Config.Variables
import RegistryOperator.Trigger.Funnel

/-! Accepted settings and the limiter made from them. Reading the variables bounds the numbers, but
not what the limiter calculates from them. It never fails unless the doubled delay of an item comes
to `2 ^ 64` seconds just where the cap is rounded up to as much, or the rate does not make up for
the debt of the bucket in time. -/

namespace RegistryOperator

open Binary64

instance : Inhabited Trigger := ⟨.changes⟩

namespace Config

variable {bound n : ℕ}

theorem readDigits_lt {acc : ℕ} {cs : List Char} (hacc : acc < bound)
    (h : readDigits bound acc cs = .ok n) : n < bound := by
  induction cs generalizing acc with
  | nil =>
      cases h
      exact hacc
  | cons c cs ih =>
      rw [readDigits] at h
      dsimp only at h
      split_ifs at h with hdigit hnext
      exact ih hnext h

theorem readWhole_lt {s : String} (hbound : 0 < bound) (h : readWhole bound s = .ok n) :
    n < bound := by
  unfold readWhole at h
  split at h
  · cases h
  · cases h
  · exact readDigits_lt hbound h
  · exact readDigits_lt hbound h

/-- The numbers found are in their ranges. -/
structure Found.InRange (f : Found) : Prop where
  resyncPeriodSecs : ∀ n ∈ f.resyncPeriodSecs, n < 2 ^ (64 : ℕ)
  baseDelayMs : ∀ n ∈ f.baseDelayMs, n < 2 ^ (64 : ℕ)
  maxDelaySecs : ∀ n ∈ f.maxDelaySecs, n < 2 ^ (64 : ℕ)
  burst : ∀ n ∈ f.burst, n < 2 ^ (32 : ℕ)

theorem Found.InRange.add {f f' : Found} {setting : Setting} {value : String} (h : f.InRange)
    (hadd : f.add setting value = .ok f') : f'.InRange := by
  have hset {β : Type} {r : Except NumberFault β} {set : β → Found} (hmap : r.map set = .ok f') :
      ∃ n, r = .ok n ∧ f' = set n := by
    cases r with
    | error fault => cases hmap
    | ok n =>
        cases hmap
        exact ⟨n, rfl, rfl⟩
  have hlt {bound n : ℕ} (hbound : 0 < bound) (hread : readWhole bound value = .ok n) :
      ∀ m ∈ some n, m < bound := by simpa using readWhole_lt hbound hread
  cases setting with
  | namespaceName =>
      cases hadd
      exact { h with }
  | resyncPeriodSecs =>
      obtain ⟨n, hn, rfl⟩ := hset hadd
      exact { h with resyncPeriodSecs := hlt (by norm_num) hn }
  | baseDelayMs =>
      obtain ⟨n, hn, rfl⟩ := hset hadd
      exact { h with baseDelayMs := hlt (by norm_num) hn }
  | maxDelaySecs =>
      obtain ⟨n, hn, rfl⟩ := hset hadd
      exact { h with maxDelaySecs := hlt (by norm_num) hn }
  | qps =>
      obtain ⟨x, -, rfl⟩ := hset hadd
      exact { h with }
  | burst =>
      obtain ⟨n, hn, rfl⟩ := hset hadd
      exact { h with burst := hlt (by norm_num) hn }
  | registryImage =>
      cases hadd
      exact { h with }
  | bootstrapStorage =>
      cases hadd
      exact { h with }

theorem read_inRange {vars : List (String × String)} {f f' : Found} (h : f.InRange)
    (hread : read f vars = .ok f') : f'.InRange := by
  induction vars generalizing f with
  | nil =>
      cases hread
      exact h
  | cons entry vars ih =>
      obtain ⟨variableName, value⟩ := entry
      rw [read] at hread
      split at hread
      · exact ih h hread
      · split_ifs at hread
        split at hread
        · rename_i hadd
          exact ih (h.add hadd) hread
        · cases hread

end Config

namespace OperatorConfig

/-- Settings that can be accepted: numbers in their ranges, and periods that are not zero. -/
structure Valid (c : OperatorConfig) : Prop where
  resyncPeriodSecs : 0 < c.resyncPeriodSecs ∧ c.resyncPeriodSecs < 2 ^ (64 : ℕ)
  baseDelayMs : c.baseDelayMs < 2 ^ (64 : ℕ)
  maxDelaySecs : 0 < c.maxDelaySecs ∧ c.maxDelaySecs < 2 ^ (64 : ℕ)
  burst : c.burst < 2 ^ (32 : ℕ)

theorem getD_lt {bound default : ℕ} {n : Option ℕ} (h : ∀ m ∈ n, m < bound)
    (hdefault : default < bound) : n.getD default < bound := by
  cases n with
  | none => exact hdefault
  | some m => exact h m rfl

theorem valid_of_ofVariables {vars : List (String × String)} {c : OperatorConfig}
    (h : ofVariables vars = .ok c) : c.Valid := by
  obtain ⟨found, hread, rfl, hresync, hmax⟩ := ofVariables_eq_ok_iff.mp h
  have hrange : found.InRange := Config.read_inRange (f := {}) (by constructor <;> simp) hread
  exact ⟨⟨hresync, getD_lt hrange.resyncPeriodSecs (by norm_num)⟩,
    getD_lt hrange.baseDelayMs (by norm_num),
    ⟨hmax, getD_lt hrange.maxDelaySecs (by norm_num)⟩, getD_lt hrange.burst (by norm_num)⟩

end OperatorConfig

namespace BackoffSettings

/-- Some number of failures makes the delay `2 ^ 64` seconds, and as a double the cap is as much. -/
def CapMissed (s : BackoffSettings) : Prop :=
  s.maxDelay.toDouble = Duration.tooLong ∧
    ∃ failures, ExponentialBackoff.seconds Float s.baseDelay failures = Duration.tooLong

/-- Tokens come in, but too slowly for the debt that the bucket can have; or how fast they come in
is not a number, and the bucket starts empty. -/
def RateTooSlow (s : BackoffSettings) : Prop :=
  ¬s.qps ≤ 0 ∧ s.qps ≤ slowest ∨ s.qps.isNaN ∧ s.burst = 0

instance (s : BackoffSettings) : Decidable s.RateTooSlow := inferInstanceAs (Decidable (_ ∨ _))

variable {s : BackoffSettings} {n : ℕ} {α : Type} [DecidableEq α] {created : Duration}

/-- Only the longest caps are missed. -/
theorem not_capMissed_of_le (hmax : s.maxDelay = .ofSeconds n)
    (hn : n ≤ 2 ^ (64 : ℕ) - 2 ^ (11 : ℕ)) :
    ¬s.CapMissed := by
  rintro ⟨hcap, -⟩
  obtain ⟨v, hv, hrounds, -, -⟩ := Duration.toDouble_ofSeconds (n := n) (by omega)
  have hn' : (n : ℚ) ≤ 2 ^ 64 - 2 ^ 11 := by
    have hcast : (n : ℚ) ≤ (2 ^ 64 - 2 ^ 11 : ℕ) := by exact_mod_cast hn
    norm_num at hcast ⊢
    exact hcast
  have hshort : v ≤ 2 ^ 64 - 2 ^ 11 :=
    hrounds.ge_of_ge _ Duration.representable_before_tooLong hn'
  rw [← hmax, hcap] at hv
  rw [hv.unique Duration.tooLong_is] at hshort
  norm_num at hshort

theorem delay_isSome_iff (hmax : s.maxDelay = .ofSeconds n) (hn : n < 2 ^ (64 : ℕ)) :
    (∀ failures, (ExponentialBackoff.delay Float s.baseDelay s.maxDelay failures).isSome) ↔
      ¬s.CapMissed := by
  rw [CapMissed, hmax]
  constructor
  · rintro h ⟨hcap, failures, hseconds⟩
    exact (ExponentialBackoff.delay_isSome_iff s.baseDelay hn failures).mp (h failures)
      ⟨hseconds, hcap⟩
  · intro h failures
    rw [ExponentialBackoff.delay_isSome_iff s.baseDelay hn]
    exact fun hmissed => h ⟨hmissed.2, failures, hmissed.1⟩

theorem unfailing_of_not (hmax : s.maxDelay = .ofSeconds n) (hn : n < 2 ^ (64 : ℕ))
    (hburst : s.burst < 2 ^ (32 : ℕ)) (hcap : ¬s.CapMissed) (hrate : ¬s.RateTooSlow) :
    (s.limiter created : Limiter Float α).Unfailing created := by
  have hdelay := (delay_isSome_iff hmax hn).mpr hcap
  by_cases hqps : s.qps ≤ 0
  · exact Limiter.unfailing_ofSettings s.burst created (decide_eq_true hqps) fun k => hdelay k
  · have hfast : ¬s.qps ≤ slowest := fun hle => hrate (Or.inl ⟨hqps, hle⟩)
    have hnumber : s.qps.isNaN → s.burst ≠ 0 := fun hnan hzero => hrate (Or.inr ⟨hnan, hzero⟩)
    exact Limiter.unfailing_of_bucket (TokenBucket.bounded_full hburst created)
      (fun t now ht => ht.charge now hqps) (fun t now ht => ht.wait now hqps hfast hnumber) hdelay

variable [Inhabited α]

theorem not_capMissed_of_unfailing (hmax : s.maxDelay = .ofSeconds n) (hn : n < 2 ^ (64 : ℕ))
    (h : (s.limiter created : Limiter Float α).Unfailing created) : ¬s.CapMissed := by
  refine (delay_isSome_iff hmax hn).mp fun failures => ?_
  rw [ExponentialBackoff.delay_min]
  have hreached := Limiter.Unfailing.backoff h default (min failures 63)
    ((Nat.zero_add _).trans_le ((Nat.min_le_right _ _).trans (by decide)))
  have hcount : Failures.count (default : α) [] = 0 := rfl
  rwa [hcount, Nat.zero_add] at hreached

theorem not_rateTooSlow_of_unfailing (hburst : s.burst < 2 ^ (32 : ℕ))
    (h : (s.limiter created : Limiter Float α).Unfailing created) : ¬s.RateTooSlow := by
  have hfull : (TokenBucket.full s.qps s.burst created).Bounded s.qps s.burst :=
    TokenBucket.bounded_full hburst created
  rintro (⟨hpos, hslow⟩ | ⟨hnan, hzero⟩)
  · rcases cases_of_not_le zero_is hpos with hnan | hinfinite | ⟨x, hx, hxpos⟩
    · exact not_le_of_notANumber hnan hslow
    · exact not_le_of_positive_infinity slowest_is hinfinite hslow
    · have htokens : Is (TokenBucket.full s.qps s.burst created).tokens
          (((s.burst + 2 ^ 53 : ℕ) - 2 ^ 53 : ℤ) : ℚ) := by
        have hburst' := TokenBucket.burst_is hburst
        push_cast
        rwa [add_sub_cancel_right]
      exact Limiter.not_unfailing_of_slow hx hxpos ((hx.le_iff slowest_is).mp hslow) hburst
        (s.burst + 2 ^ 53) le_rfl hfull htokens rfl h
  · rw [hzero] at hfull
    have hwait := (Limiter.Unfailing.parts h default).2.1
    rw [hzero] at hwait
    exact hfull.not_wait created (isNaN_iff.mp hnan) hwait

theorem unfailing_iff (hmax : s.maxDelay = .ofSeconds n) (hn : n < 2 ^ (64 : ℕ))
    (hburst : s.burst < 2 ^ (32 : ℕ)) :
    (s.limiter created : Limiter Float α).Unfailing created ↔ ¬s.CapMissed ∧ ¬s.RateTooSlow :=
  ⟨fun h => ⟨not_capMissed_of_unfailing hmax hn h, not_rateTooSlow_of_unfailing hburst h⟩,
    fun h => unfailing_of_not hmax hn hburst h.1 h.2⟩

end BackoffSettings

namespace OperatorConfig

/-- **Which accepted settings the limiter endures.** Whatever is charged and forgotten as time goes
on, there is a delay for every item that fails, unless the cap is missed or the rate is too slow.
In both of these cases there are turns after which there is none. -/
theorem limiter_unfailing_iff {α : Type} [DecidableEq α] [Inhabited α]
    {vars : List (String × String)} {c : OperatorConfig} (h : ofVariables vars = .ok c)
    (created : Duration) : (c.backoff.limiter created : Limiter Float α).Unfailing created ↔
      ¬c.backoff.CapMissed ∧ ¬c.backoff.RateTooSlow := by
  have hvalid := valid_of_ofVariables h
  exact BackoffSettings.unfailing_iff rfl hvalid.maxDelaySecs.2 hvalid.burst

/-- The standard settings are endured. -/
theorem limiter_unfailing_standard : ofVariables [] = .ok {} ∧
    (({} : OperatorConfig).backoff.limiter .zero : Limiter Float Trigger).Unfailing .zero := by
  have hread : ofVariables [] = .ok {} := rfl
  have hcap := BackoffSettings.not_capMissed_of_le (s := ({} : OperatorConfig).backoff) rfl
    (by decide : 1000 ≤ 2 ^ (64 : ℕ) - 2 ^ (11 : ℕ))
  exact ⟨hread, (limiter_unfailing_iff hread .zero).mpr ⟨hcap, by decide⟩⟩

/-- Neither exception is turned down: with hardly any rate and no burst the first failure has no
delay, and with two seconds doubled up to the longest cap the 64th failure has none. -/
theorem limiter_fails_accepted :
    (∃ c, ofVariables [("REGOP_QPS", "1e-20"), ("REGOP_BURST", "0")] = .ok c ∧
      ¬(c.backoff.limiter .zero : Limiter Float Trigger).Unfailing .zero) ∧
    ∃ c, ofVariables [("REGOP_BASE_DELAY_MS", "2000"),
        ("REGOP_MAX_DELAY_SECS", "18446744073709551615")] = .ok c ∧
      ¬(c.backoff.limiter .zero : Limiter Float Trigger).Unfailing .zero := by
  constructor
  · refine ⟨{ qps := .ofBits 0x3bc79ca10c924223, burst := 0 }, rfl, fun h => ?_⟩
    exact absurd (h.delay .changes) (by decide)
  · refine ⟨{ baseDelayMs := 2000, maxDelaySecs := 18446744073709551615 }, rfl, fun h => ?_⟩
    have hdelay := Limiter.Unfailing.backoff h .changes 63 (by decide)
    exact absurd hdelay (by decide)

end OperatorConfig
end RegistryOperator
