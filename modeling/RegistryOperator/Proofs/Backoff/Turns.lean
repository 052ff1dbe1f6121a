import Mathlib.Tactic.SplitIfs
import RegistryOperator.Backoff.Limiter

/-! Limiters in use. Failures are charged and forgotten while the clock goes on. The limiter of the
operator counts the failures of each item since they were last forgotten, whichever of its parts
says how long to wait. -/

namespace RegistryOperator

namespace Failures

variable {α : Type} [DecidableEq α] (x y : α) (f : Failures α)

theorem count_bump :
    (f.bump y).count x = if y = x then min (f.count x + 1) limit else f.count x := by
  induction f with
  | nil => by_cases h : y = x <;> simp [bump, count, h, limit]
  | cons entry rest ih =>
      obtain ⟨z, n⟩ := entry
      by_cases hzy : z = y
      · subst hzy
        by_cases hzx : z = x <;> simp [bump, count, hzx]
      · by_cases hzx : z = x
        · subst hzx
          simp [bump, count, hzy, Ne.symm hzy]
        · simp only [bump, count, hzy, hzx, if_false, ih]

theorem count_clear : (f.clear x).count x = 0 := by
  unfold clear
  induction f with
  | nil => rfl
  | cons entry rest ih =>
      by_cases h : entry.1 = x
      · rw [List.filter_cons_of_neg (by simp [h])]
        exact ih
      · rw [List.filter_cons_of_pos (by simp [h]), count, if_neg h]
        exact ih

end Failures

namespace ExponentialBackoff

variable {R : Type} [Quantity R]

theorem delay_min (base max : Duration) (n : Nat) :
    delay R base max n = delay R base max (min n 63) := by simp [delay, seconds]

end ExponentialBackoff

namespace TokenBucket

variable {R : Type} [Quantity R] (b : TokenBucket R) (now : Duration)

theorem reserve_qps : (b.reserve now).2.qps = b.qps := by
  unfold reserve
  dsimp only
  split_ifs <;> rfl

theorem charge_snd : (b.charge now).2 = (b.reserve now).2 := by
  unfold charge
  obtain ⟨wait, b'⟩ := b.reserve now
  cases wait <;> rfl

theorem charge_qps : (b.charge now).2.qps = b.qps := by rw [charge_snd, reserve_qps]

end TokenBucket

/-- What happens to a limiter. -/
inductive LimiterTurn (α : Type)
  | charge (x : α)
  | forget (x : α)
  | wait (d : Duration)
deriving DecidableEq

namespace Limiter

variable {R α : Type}

/-- Limiters that are made like the operator's, of a backoff and a bucket. -/
def Consists (base max : Duration) (P : TokenBucket R → Prop) (l : Limiter R α) : Prop :=
  ∃ failures t, l = .longest [.exponential ⟨base, max, failures⟩, .bucket t] ∧ P t

/-- Limiters that are made like the operator's, with some settings. -/
def HasSettings (base max : Duration) (qps : R) (l : Limiter R α) : Prop :=
  l.Consists base max (·.qps = qps)

variable {base max : Duration} {qps : R} {l : Limiter R α} {now : Duration} {x : α}
variable {P : TokenBucket R → Prop}

section

variable [DecidableEq α]

theorem requeues_longest (b : ExponentialBackoff α) (t : TokenBucket R) (x : α) :
    requeues x (.longest [.exponential b, .bucket t]) = b.failures.count x := by
  simp [requeues, requeuesAll]

theorem Consists.forget (h : l.Consists base max P) : (l.forget x).Consists base max P := by
  obtain ⟨failures, t, rfl, ht⟩ := h
  exact ⟨_, t, rfl, ht⟩

theorem HasSettings.forget (h : l.HasSettings base max qps) :
    (l.forget x).HasSettings base max qps := Consists.forget h

theorem HasSettings.requeues_forget (h : l.HasSettings base max qps) :
    (l.forget x).requeues x = 0 := by
  obtain ⟨failures, t, rfl, _⟩ := h
  exact (requeues_longest _ t x).trans (failures.count_clear x)

end

variable [Quantity R]

theorem hasSettings_ofSettings (base max : Duration) (qps : R) (burst : Nat) (created : Duration) :
    HasSettings base max qps (.ofSettings base max qps burst created : Limiter R α) :=
  ⟨_, _, rfl, rfl⟩

variable [DecidableEq α]

theorem requeues_ofSettings (base max : Duration) (qps : R) (burst : Nat) (created : Duration)
    (x : α) : requeues x (.ofSettings base max qps burst created : Limiter R α) = 0 :=
  requeues_longest _ _ x

/-- The failure is counted in any case. If the backoff has no delay, no token is asked for. -/
theorem charge_longest (b : ExponentialBackoff α) (t : TokenBucket R) (now : Duration) (x : α) :
    charge now x (.longest [.exponential b, .bucket t]) =
      match (b.charge R x).1 with
      | none => (none, .longest [.exponential (b.charge R x).2, .bucket t])
      | some d => ((t.charge now).1.map fun wait => d.max (wait.max .zero),
          .longest [.exponential (b.charge R x).2, .bucket (t.charge now).2]) := by
  simp only [charge, chargeAll]
  obtain ⟨delay, b'⟩ := b.charge R x
  cases delay with
  | none => rfl
  | some d =>
      obtain ⟨wait, t'⟩ := t.charge now
      cases wait <;> rfl

theorem Consists.charge (h : l.Consists base max P) (hP : ∀ t now, P t → P (t.charge now).2) :
    (l.charge now x).2.Consists base max P := by
  obtain ⟨failures, t, rfl, ht⟩ := h
  rw [charge_longest]
  split
  · exact ⟨_, _, rfl, ht⟩
  · exact ⟨_, _, rfl, hP t now ht⟩

namespace HasSettings

theorem charge (h : l.HasSettings base max qps) :
    (l.charge now x).2.HasSettings base max qps :=
  Consists.charge h fun t now ht => (t.charge_qps now).trans ht

theorem requeues_charge (h : l.HasSettings base max qps) :
    (l.charge now x).2.requeues x = min (l.requeues x + 1) Failures.limit := by
  obtain ⟨failures, t, rfl, _⟩ := h
  have hbump := (failures.count_bump x x).trans (if_pos rfl)
  rw [charge_longest, requeues_longest]
  split
  · exact (requeues_longest _ _ x).trans hbump
  · exact (requeues_longest _ _ x).trans hbump

end HasSettings

/-- A limiter and the time after a turn. -/
def turn (s : Limiter R α × Duration) : LimiterTurn α → Limiter R α × Duration
  | .charge x => ((s.1.charge s.2 x).2, s.2)
  | .forget x => (s.1.forget x, s.2)
  | .wait d => (s.1, ⟨s.2.nanos + d.nanos⟩)

/-- Whatever happens to the limiter from a moment on, it has a delay for every item that fails. -/
def Unfailing (l : Limiter R α) (now : Duration) : Prop :=
  ∀ (turns : List (LimiterTurn α)) (x : α),
    let s := turns.foldl turn (l, now)
    (s.1.charge s.2 x).1.isSome

theorem Unfailing.delay (h : l.Unfailing now) (x : α) : (l.charge now x).1.isSome := h [] x

theorem Unfailing.turn (h : l.Unfailing now) (t : LimiterTurn α) :
    (turn (l, now) t).1.Unfailing (turn (l, now) t).2 := fun turns x => h (t :: turns) x

theorem Consists.turn (h : l.Consists base max P) (hP : ∀ t now, P t → P (t.charge now).2)
    (t : LimiterTurn α) : (turn (l, now) t).1.Consists base max P := by
  cases t with
  | charge x => exact h.charge hP
  | forget x => exact h.forget
  | wait d => exact h

theorem Consists.turns (h : l.Consists base max P) (hP : ∀ t now, P t → P (t.charge now).2)
    (now : Duration) (turns : List (LimiterTurn α)) :
    (turns.foldl Limiter.turn (l, now)).1.Consists base max P := by
  induction turns generalizing l now with
  | nil => exact h
  | cons t turns ih => exact ih (h.turn hP t) _

/-- As long as the limiter does not fail, both parts are charged and have a delay. -/
theorem Unfailing.parts {b : ExponentialBackoff α} {t : TokenBucket R}
    (h : (.longest [.exponential b, .bucket t] : Limiter R α).Unfailing now) (x : α) :
    (b.charge R x).1.isSome ∧ (t.charge now).1.isSome ∧
      (.longest [.exponential (b.charge R x).2, .bucket (t.charge now).2] :
        Limiter R α).Unfailing now := by
  have hdelay := h.delay x
  have hnext := h.turn (.charge x)
  simp only [Limiter.turn] at hnext
  rw [charge_longest] at hdelay hnext
  cases hbackoff : (b.charge R x).1 with
  | none =>
      rw [hbackoff] at hdelay
      exact absurd hdelay Bool.false_ne_true
  | some d =>
      rw [hbackoff] at hdelay hnext
      exact ⟨rfl, by simpa using hdelay, hnext⟩

/-- A limiter that does not fail has been through all counts of failures. -/
theorem Unfailing.backoff {f : Failures α} {t : TokenBucket R}
    (h : (.longest [.exponential ⟨base, max, f⟩, .bucket t] : Limiter R α).Unfailing now) (x : α)
    (k : Nat) (hk : f.count x + k ≤ Failures.limit) :
    (ExponentialBackoff.delay R base max (f.count x + k)).isSome := by
  induction k generalizing f t with
  | zero => exact (h.parts x).1
  | succ k ih =>
      have hcount : (f.bump x).count x = f.count x + 1 := by
        rw [Failures.count_bump, if_pos rfl]
        omega
      have hrest := ih (f := f.bump x) (h.parts x).2.2 (by omega)
      rw [hcount] at hrest
      rwa [← Nat.add_assoc, Nat.add_right_comm]

/-- If the backoff always has a delay, and so has the bucket as long as what is known of it at the
start stays true, the limiter never fails. -/
theorem unfailing_of_bucket {burst : Nat} {created : Duration}
    (hfull : P (.full qps burst created)) (hcharge : ∀ t now, P t → P (t.charge now).2)
    (hwait : ∀ t now, P t → (t.charge now).1.isSome)
    (hdelay : ∀ n, (ExponentialBackoff.delay R base max n).isSome) :
    (.ofSettings base max qps burst created : Limiter R α).Unfailing now := by
  have hmade : (.ofSettings base max qps burst created : Limiter R α).Consists base max P :=
    ⟨_, _, rfl, hfull⟩
  intro turns x
  obtain ⟨failures, t, heq, ht⟩ := hmade.turns hcharge now turns
  obtain ⟨d, hd⟩ := Option.isSome_iff_exists.mp (hdelay (failures.count x))
  dsimp only
  rw [heq, charge_longest, ExponentialBackoff.charge, hd, Option.isSome_map]
  exact hwait t _ ht

/-- Without a limit to the tokens only the backoff can fail, and it stays as it is after 63
failures. -/
theorem unfailing_ofSettings (burst : Nat) (created : Duration)
    (hqps : Quantity.atMost qps (Quantity.ofNat 0) = true)
    (hdelay : ∀ n : Fin 64, (ExponentialBackoff.delay R base max n).isSome) :
    (.ofSettings base max qps burst created : Limiter R α).Unfailing now := by
  have hdelay' (n : Nat) : (ExponentialBackoff.delay R base max n).isSome := by
    rw [ExponentialBackoff.delay_min]
    exact hdelay ⟨min n 63, Nat.lt_succ_of_le (Nat.min_le_right n 63)⟩
  have htoken (t : TokenBucket R) (now : Duration) (ht : t.qps = qps) :
      t.charge now = (some .zero, t) := by
    rw [TokenBucket.charge, TokenBucket.reserve, if_pos (ht ▸ hqps)]
  have hwait (t : TokenBucket R) (now : Duration) (ht : t.qps = qps) :
      (t.charge now).1.isSome := by
    rw [htoken t now ht]
    rfl
  exact unfailing_of_bucket (P := fun t => t.qps = qps) rfl
    (fun t now ht => (t.charge_qps now).trans ht) hwait hdelay'

end Limiter
end RegistryOperator
