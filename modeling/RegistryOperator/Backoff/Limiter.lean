import RegistryOperator.Backoff.Quantity
import RegistryOperator.Config.Basic

/-! Limiters decide how long an item waits before it is tried again. Time is the time since the
limiter's clock started. A delay too long to be a length of time is none, and then the caller's own
work ends too; what the call changed before that stays changed. -/

namespace RegistryOperator

/-- Limiters of items of type `α`, of whatever make. -/
class RateLimiter (L : Type) (α : outParam Type) where
  /-- The delay of an item that failed. -/
  charge : Duration → α → L → Option Duration × L
  /-- Forgets the failures of an item. -/
  forget : α → L → L
  /-- How often an item failed since it was forgotten. -/
  requeues : α → L → Nat

/-- How often each item failed. An item that is not listed did not fail. -/
abbrev Failures (α : Type) := List (α × Nat)

namespace Failures

variable {α : Type} [DecidableEq α]

def count (x : α) : Failures α → Nat
  | [] => 0
  | (y, n) :: rest => if y = x then n else count x rest

/-- The greatest count; it stays when it is reached. -/
def limit : Nat := 2 ^ (32 : Nat) - 1

def bump (x : α) : Failures α → Failures α
  | [] => [(x, 1)]
  | (y, n) :: rest => if y = x then (y, min (n + 1) limit) :: rest else (y, n) :: bump x rest

def clear (x : α) (f : Failures α) : Failures α := f.filter (·.1 ≠ x)

end Failures

/-- Delays each item by `base`, doubled with every failure, but at most `max`. -/
structure ExponentialBackoff (α : Type) where
  base : Duration
  max : Duration
  failures : Failures α := []

namespace ExponentialBackoff

variable {α : Type} [DecidableEq α]

/-- The delay before it is capped, in seconds. Beyond 63 doublings nothing is doubled. -/
def seconds (R : Type) [Quantity R] (base : Duration) (failures : Nat) : R :=
  Quantity.seconds base * Quantity.ofNat (2 ^ min failures 63)

def delay (R : Type) [Quantity R] (base max : Duration) (failures : Nat) : Option Duration :=
  let backoff : R := seconds R base failures
  if !Quantity.isFinite backoff || Quantity.below (Quantity.seconds max) backoff then some max
  else Quantity.toDuration? backoff

def charge (R : Type) [Quantity R] (x : α) (b : ExponentialBackoff α) :
    Option Duration × ExponentialBackoff α :=
  (delay R b.base b.max (b.failures.count x), { b with failures := b.failures.bump x })

end ExponentialBackoff

/-- Tokens for all items together: `qps` a second come in, up to `burst`. A call takes one, and
waits for it if there is none. -/
structure TokenBucket (R : Type) where
  qps : R
  burst : R
  tokens : R
  last : Duration

namespace TokenBucket

variable {R : Type} [Quantity R]

def full (qps : R) (burst : Nat) (now : Duration) : TokenBucket R :=
  ⟨qps, Quantity.ofNat burst, Quantity.ofNat burst, now⟩

/-- Takes a token; the wait for it, in seconds, is none if it was there. A rate that is not positive
means that there is no limit. -/
def reserve (now : Duration) (b : TokenBucket R) : Option R × TokenBucket R :=
  if Quantity.atMost b.qps (Quantity.ofNat 0) then (none, b)
  else
    let elapsed : R := Quantity.seconds ⟨now.nanos - b.last.nanos⟩
    let tokens := Quantity.capped (b.tokens + elapsed * b.qps) b.burst - Quantity.ofNat 1
    let b := { b with tokens, last := now }
    if Quantity.atMost (Quantity.ofNat 0) tokens then (none, b) else (some (-tokens / b.qps), b)

def charge (now : Duration) (b : TokenBucket R) : Option Duration × TokenBucket R :=
  match b.reserve now with
  | (none, b) => (some .zero, b)
  | (some wait, b) => (Quantity.toDuration? wait, b)

end TokenBucket

/-- A limiter of items of type `α` that calculates in `R`. -/
inductive Limiter (R α : Type)
  | exponential (b : ExponentialBackoff α)
  | bucket (b : TokenBucket R)
  /-- The longest delay of several. -/
  | longest (limiters : List (Limiter R α))

namespace Limiter

variable {R α : Type} [Quantity R] [DecidableEq α]

mutual

def charge (now : Duration) (x : α) : Limiter R α → Option Duration × Limiter R α
  | .exponential b => let (d, b) := b.charge R x; (d, .exponential b)
  | .bucket b => let (d, b) := b.charge now; (d, .bucket b)
  | .longest limiters => let (d, limiters) := chargeAll now x limiters; (d, .longest limiters)

/-- The longest delay of several limiters, zero of none. After one that has no delay the others are
not asked. -/
def chargeAll (now : Duration) (x : α) : List (Limiter R α) → Option Duration × List (Limiter R α)
  | [] => (some .zero, [])
  | l :: rest =>
    match charge now x l with
    | (none, l) => (none, l :: rest)
    | (some d, l) =>
      let (most, rest) := chargeAll now x rest
      (most.map d.max, l :: rest)

end

mutual

def forget (x : α) : Limiter R α → Limiter R α
  | .exponential b => .exponential { b with failures := b.failures.clear x }
  | .bucket b => .bucket b
  | .longest limiters => .longest (forgetAll x limiters)

/-- Forgets the failures of an item in several limiters. -/
def forgetAll (x : α) : List (Limiter R α) → List (Limiter R α)
  | [] => []
  | l :: rest => forget x l :: forgetAll x rest

end

mutual

def requeues (x : α) : Limiter R α → Nat
  | .exponential b => b.failures.count x
  | .bucket _ => 0
  | .longest limiters => requeuesAll x limiters

/-- The greatest of the counts of several limiters. -/
def requeuesAll (x : α) : List (Limiter R α) → Nat
  | [] => 0
  | l :: rest => max (requeues x l) (requeuesAll x rest)

end

instance : RateLimiter (Limiter R α) α := ⟨charge, forget, requeues⟩

/-- The limiter of the operator: backoff for each item, and a bucket for all. -/
def ofSettings (base max : Duration) (qps : R) (burst : Nat) (now : Duration) : Limiter R α :=
  .longest [.exponential { base, max }, .bucket (.full qps burst now)]

end Limiter

def BackoffSettings.limiter {α : Type} (s : BackoffSettings) (now : Duration) : Limiter Float α :=
  .ofSettings s.baseDelay s.maxDelay s.qps s.burst now

end RegistryOperator
