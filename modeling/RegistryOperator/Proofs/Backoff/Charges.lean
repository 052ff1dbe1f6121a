import Mathlib.Data.List.Induction
import RegistryOperator.Proofs.Backoff.Exact
import RegistryOperator.Proofs.Backoff.Turns

/-! What the operator's limiter keeps of all that happened to it. The backoff keeps for each item
how often it failed since it was last forgotten, and the bucket is as if there were no backoff: both
are charged with each failure, and nothing is given back to the bucket. -/

namespace RegistryOperator

theorem Duration.max_zero (d : Duration) : d.max .zero = d := by
  unfold max
  split_ifs with hle
  · cases d
    exact congrArg Duration.mk (Nat.le_zero.mp hle).symm
  · rfl

namespace LimiterTurn

variable {α : Type} [DecidableEq α] {x : α}

/-- How often an item failed since it was last forgotten. -/
def failuresSince (x : α) (turns : List (LimiterTurn α)) : Nat :=
  (turns.reverse.takeWhile (· ≠ .forget x)).count (.charge x)

/-- The turns of one item. -/
def concerns (x : α) : LimiterTurn α → Bool
  | .charge y => y = x
  | .forget y => y = x
  | .wait _ => false

theorem failuresSince_concat (turns : List (LimiterTurn α)) (t : LimiterTurn α) :
    failuresSince x (turns ++ [t]) =
      if t = .forget x then 0 else failuresSince x turns + if t = .charge x then 1 else 0 := by
  unfold failuresSince
  rw [List.reverse_concat, List.takeWhile_cons]
  by_cases hforget : t = .forget x
  · simp [hforget]
  · simp [hforget, List.count_cons]

/-- The turns of other items do not matter. -/
theorem failuresSince_filter (x : α) (turns : List (LimiterTurn α)) :
    failuresSince x (turns.filter (·.concerns x)) = failuresSince x turns := by
  induction turns using List.reverseRecOn with
  | nil => rfl
  | append_singleton turns t ih =>
      rw [List.filter_append, failuresSince_concat]
      by_cases hmine : t.concerns x
      · rw [List.filter_cons_of_pos hmine, List.filter_nil, failuresSince_concat, ih]
      · have hforget : t ≠ .forget x := by
          rintro rfl
          exact hmine (decide_eq_true rfl)
        have hcharge : t ≠ .charge x := by
          rintro rfl
          exact hmine (decide_eq_true rfl)
        rw [List.filter_cons_of_neg hmine, List.filter_nil, List.append_nil, ih, if_neg hforget,
          if_neg hcharge, Nat.add_zero]

end LimiterTurn

namespace Failures

variable {α : Type} [DecidableEq α]

theorem count_clear_ne {x y : α} (h : y ≠ x) (f : Failures α) :
    (f.clear y).count x = f.count x := by
  unfold clear
  induction f with
  | nil => rfl
  | cons entry rest ih =>
      by_cases hy : entry.1 = y
      · rw [List.filter_cons_of_neg (by simp [hy]), count, if_neg (hy ▸ h), ih]
      · rw [List.filter_cons_of_pos (by simp [hy]), count, count, ih]

/-- How the failures change. -/
def turn (f : Failures α) : LimiterTurn α → Failures α
  | .charge x => f.bump x
  | .forget x => f.clear x
  | .wait _ => f

/-- The failures of an item are those since it was last forgotten, up to the greatest count. -/
theorem count_turns (x : α) (turns : List (LimiterTurn α)) :
    count x (turns.foldl turn []) = min (LimiterTurn.failuresSince x turns) limit := by
  induction turns using List.reverseRecOn with
  | nil => rfl
  | append_singleton turns t ih =>
      rw [List.foldl_concat, LimiterTurn.failuresSince_concat]
      cases t with
      | charge y =>
          rw [turn, count_bump, ih]
          by_cases hxy : y = x
          · simp only [hxy, if_true, reduceCtorEq, if_false]
            omega
          · simp [hxy]
      | forget y =>
          rw [turn]
          by_cases hxy : y = x
          · rw [hxy, count_clear, if_pos rfl, Nat.zero_min]
          · rw [count_clear_ne hxy, ih]
            simp [hxy]
      | wait d => simpa [turn] using ih

end Failures

/-- A bucket of its own and the time after a turn. Each failure takes a token, whatever item it is
of. -/
def TokenBucket.turn {R α : Type} [Quantity R] (s : TokenBucket R × Duration) :
    LimiterTurn α → TokenBucket R × Duration
  | .charge _ => ((s.1.charge s.2).2, s.2)
  | .forget _ => s
  | .wait d => (s.1, ⟨s.2.nanos + d.nanos⟩)

namespace Limiter

variable {R α : Type} [DecidableEq α] {base max : Duration} {f : Failures α} {b : TokenBucket R}
variable {now : Duration} {x : α} {turns : List (LimiterTurn α)}

theorem forget_longest : forget x (.longest [.exponential ⟨base, max, f⟩, .bucket b]) =
    .longest [.exponential ⟨base, max, f.clear x⟩, .bucket b] := rfl

variable [Quantity R]

/-- Every failure in these turns has a delay. -/
def delayed (s : Limiter R α × Duration) : List (LimiterTurn α) → Bool
  | [] => true
  | .charge x :: turns => (s.1.charge s.2 x).1.isSome && delayed (turn s (.charge x)) turns
  | t :: turns => delayed (turn s t) turns

/-- The delay is the longer one of those of both parts. -/
theorem charge_fst :
    (charge now x (.longest [.exponential ⟨base, max, f⟩, .bucket b])).1 =
      (ExponentialBackoff.delay R base max (f.count x)).bind fun part =>
        (b.charge now).1.map part.max := by
  rw [charge_longest, ExponentialBackoff.charge]
  cases ExponentialBackoff.delay R base max (f.count x) with
  | none => rfl
  | some part => simp only [Duration.max_zero, Option.bind_some]

/-- The failure is counted, whether there is a delay or not. -/
theorem charge_failures (base max : Duration) (f : Failures α) (b : TokenBucket R)
    (now : Duration) (x : α) :
    ∃ b', (charge now x (.longest [.exponential ⟨base, max, f⟩, .bucket b])).2 =
      .longest [.exponential ⟨base, max, f.bump x⟩, .bucket b'] := by
  rw [charge_longest]
  split
  · exact ⟨b, rfl⟩
  · exact ⟨(b.charge now).2, rfl⟩

/-- If there is a delay, both parts are charged, whichever of them it comes from. -/
theorem charge_snd
    (h : (charge now x (.longest [.exponential ⟨base, max, f⟩, .bucket b])).1.isSome) :
    (charge now x (.longest [.exponential ⟨base, max, f⟩, .bucket b])).2 =
      .longest [.exponential ⟨base, max, f.bump x⟩, .bucket (b.charge now).2] := by
  rw [charge_fst] at h
  rw [charge_longest, ExponentialBackoff.charge]
  cases hpart : ExponentialBackoff.delay R base max (f.count x) with
  | none =>
      rw [hpart] at h
      exact absurd h Bool.false_ne_true
  | some part => rfl

/-- The backoff goes through the turns by itself. -/
theorem turns_failures (base max : Duration) (f : Failures α) (b : TokenBucket R)
    (now : Duration) (turns : List (LimiterTurn α)) :
    ∃ b', (turns.foldl turn (.longest [.exponential ⟨base, max, f⟩, .bucket b], now)).1 =
      .longest [.exponential ⟨base, max, turns.foldl Failures.turn f⟩, .bucket b'] := by
  induction turns generalizing f b now with
  | nil => exact ⟨b, rfl⟩
  | cons t turns ih =>
      cases t with
      | charge x =>
          obtain ⟨b', hcharge⟩ := charge_failures base max f b now x
          rw [List.foldl_cons, turn, hcharge]
          exact ih (f.bump x) b' now
      | forget x => exact ih (f.clear x) b now
      | wait d => exact ih f b _

/-- As long as every failure has a delay, so does the bucket. -/
theorem turns_eq
    (h : delayed ((.longest [.exponential ⟨base, max, f⟩, .bucket b] : Limiter R α), now) turns) :
    turns.foldl turn (.longest [.exponential ⟨base, max, f⟩, .bucket b], now) =
      (.longest [.exponential ⟨base, max, turns.foldl Failures.turn f⟩,
        .bucket (turns.foldl TokenBucket.turn (b, now)).1],
        (turns.foldl TokenBucket.turn (b, now)).2) := by
  induction turns generalizing f b now with
  | nil => rfl
  | cons t turns ih =>
      cases t with
      | charge x =>
          obtain ⟨hdelay, hrest⟩ := Bool.and_eq_true_iff.mp h
          rw [turn, charge_snd hdelay] at hrest
          rw [List.foldl_cons, turn, charge_snd hdelay]
          exact ih hrest
      | forget x => exact ih h
      | wait d => exact ih h

theorem requeues_turns (base max : Duration) (qps : R) (burst : Nat) (created now : Duration)
    (turns : List (LimiterTurn α)) (x : α) :
    (turns.foldl turn ((.ofSettings base max qps burst created : Limiter R α), now)).1.requeues x =
      min (LimiterTurn.failuresSince x turns) Failures.limit := by
  obtain ⟨b', hturns⟩ := turns_failures base max [] (.full qps burst created) now turns
  rw [ofSettings, hturns, requeues_longest]
  exact Failures.count_turns x turns

/-- **The limiter goes by the history of each item.** As long as every failure has a delay, the
limiter consists of the backoff and a bucket that went through the same turns by itself. It counts
for each item the failures since it was last forgotten, whatever other items did. The next failure
is delayed by the longer one of the delays of both parts, where that of the backoff depends on the
settings and the count only; both are charged, and what is forgotten is the count alone. In exact
arithmetic the delay of the backoff grows with the count up to the cap. -/
theorem charges_by_history (base max : Duration) (qps : R) (burst : Nat) (created now : Duration)
    (turns : List (LimiterTurn α))
    (h : delayed ((.ofSettings base max qps burst created : Limiter R α), now) turns) :
    let made : Limiter R α := .ofSettings base max qps burst created
    let s := turns.foldl turn (made, now)
    let lone := turns.foldl TokenBucket.turn (.full qps burst created, now)
    (∃ f : Failures α, s = (.longest [.exponential ⟨base, max, f⟩, .bucket lone.1], lone.2) ∧
      ∀ x, ((s.1.charge s.2 x).1.isSome → (s.1.charge s.2 x).2 =
          .longest [.exponential ⟨base, max, f.bump x⟩, .bucket (lone.1.charge lone.2).2]) ∧
        s.1.forget x = .longest [.exponential ⟨base, max, f.clear x⟩, .bucket lone.1]) ∧
    (∀ x, let count := min (LimiterTurn.failuresSince x turns) Failures.limit
      s.1.requeues x = count ∧
      ((turns.filter (·.concerns x)).foldl turn (made, now)).1.requeues x = count ∧
      (s.1.forget x).requeues x = 0 ∧
      (s.1.charge s.2 x).1 = (ExponentialBackoff.delay R base max count).bind fun part =>
        (lone.1.charge lone.2).1.map part.max) ∧
    (max.nanos < Duration.secondsBound * 10 ^ (9 : ℕ) → ∀ m n, m ≤ n →
      ∃ d d', ExponentialBackoff.delay Exact base max m = some d ∧
        ExponentialBackoff.delay Exact base max n = some d' ∧
        d.nanos ≤ d'.nanos ∧ d'.nanos ≤ max.nanos) := by
  intro made s lone
  have hs : s = (.longest [.exponential ⟨base, max, turns.foldl Failures.turn []⟩, .bucket lone.1],
      lone.2) := turns_eq h
  refine ⟨⟨turns.foldl Failures.turn [], hs, ?_⟩, ?_, ?_⟩
  · intro x
    rw [hs]
    exact ⟨charge_snd, forget_longest⟩
  · intro x count
    refine ⟨requeues_turns base max qps burst created now turns x, ?_, ?_, ?_⟩
    · rw [requeues_turns, LimiterTurn.failuresSince_filter]
    · rw [hs, forget_longest, requeues_longest]
      exact Failures.count_clear x _
    · rw [hs, charge_fst, Failures.count_turns]
  · intro hmax m n hmn
    exact ⟨_, _, ExponentialBackoff.delay_exact hmax m, ExponentialBackoff.delay_exact hmax n,
      ExponentialBackoff.exactDelay_mono base max hmn, ExponentialBackoff.exactDelay_le base max n⟩

/-- Of two items that failed four times together, one was forgotten before the last time. Its next
delay is that of the bucket, which got nothing back, while the backoff has started again. -/
theorem charges_by_history_mixed :
    let turns : List (LimiterTurn Bool) :=
      [.charge true, .charge false, .charge true, .forget true, .charge true]
    let s := turns.foldl turn
      (.ofSettings (.ofMillis 5) (.ofSeconds 1000) (⟨10⟩ : Exact) 2 .zero, .zero)
    s.1.requeues true = 1 ∧ s.1.requeues false = 1 ∧
    (s.1.charge s.2 true).1 = some (.ofMillis 300) ∧
    ∃ d d', ExponentialBackoff.delay Exact (.ofMillis 5) (.ofSeconds 1000) 1 = some d ∧
      ExponentialBackoff.delay Exact (.ofMillis 5) (.ofSeconds 1000) 2 = some d' ∧
      d.nanos ≤ d'.nanos ∧ d'.nanos ≤ (Duration.ofSeconds 1000).nanos := by
  intro turns s
  obtain ⟨_, hitem, hexact⟩ := charges_by_history (.ofMillis 5) (.ofSeconds 1000) (⟨10⟩ : Exact) 2
    .zero .zero turns (by decide +kernel)
  obtain ⟨hcount, _, _, hdelay⟩ := hitem true
  exact ⟨hcount.trans (by decide +kernel), (hitem false).1.trans (by decide +kernel),
    hdelay.trans (by decide +kernel), hexact (by decide) 1 2 (by decide)⟩

end Limiter
end RegistryOperator
