import RegistryOperator.Proofs.Backoff.Turns
import RegistryOperator.Proofs.Reconcile.Crew

/-! Retries. After a pass that failed, and before the first one, the trigger is on its way to the
next pass: it waits in the queue, is marked to come back to it, or is due later. The limiter counts
the failures since the last success, whatever else triggers passes in between. -/

namespace RegistryOperator

namespace RateLimitedQueue

variable {L α : Type}

/-- An item that was added and not given out since, or is still to come. -/
def Coming (q : RateLimitedQueue L α) (x : α) : Prop :=
  x ∈ q.backlog.dirty ∨ ∃ d ∈ q.delayed, d.item = x

variable [DecidableEq α] {q : RateLimitedQueue L α} {x : α}

theorem coming_add (hopen : q.backlog.shuttingDown = false) : (q.add x).Coming x :=
  Or.inl ((Backlog.mem_dirty_add _ x hopen).mpr (Or.inl rfl))

theorem coming_addAfter (hopen : q.backlog.shuttingDown = false) (now wait : Duration) :
    (q.addAfter now x wait).Coming x := by
  rw [addAfter, if_neg (by simp [hopen])]
  split_ifs
  · exact coming_add hopen
  · exact Or.inr ⟨_, List.mem_append_right _ (List.mem_singleton_self _), rfl⟩

/-- A returned item comes back if it was to come. -/
theorem Coming.done (h : q.Coming x) (y : α) : (q.done y).Coming x :=
  h.imp_left fun hdirty => (Backlog.done_dirty q.backlog y).symm ▸ hdirty

theorem addAfter_limiter (q : RateLimitedQueue L α) (now : Duration) (x : α) (wait : Duration) :
    (q.addAfter now x wait).limiter = q.limiter := by
  unfold addAfter
  split_ifs <;> rfl

theorem addAfter_shuttingDown (q : RateLimitedQueue L α) (now : Duration) (x : α)
    (wait : Duration) :
    (q.addAfter now x wait).backlog.shuttingDown = q.backlog.shuttingDown := by
  rw [addAfter_backlog]
  split_ifs
  · exact Backlog.add_shuttingDown _ x
  · rfl

/-- An item that failed is to come, provided that the limiter has a delay for it. -/
theorem addRateLimited_eq [RateLimiter L α] {now : Duration}
    (hdelay : (RateLimiter.charge now x q.limiter).1.isSome) :
    ∃ wait, q.addRateLimited now x = (some wait,
      { q with limiter := (RateLimiter.charge now x q.limiter).2 }.addAfter now x wait) := by
  obtain ⟨wait, hwait⟩ := Option.isSome_iff_exists.mp hdelay
  refine ⟨wait, ?_⟩
  simp only [addRateLimited, charge, hwait]

end RateLimitedQueue

/-- The limiter of a queue has a delay for every trigger from now on, and has counted so many
failures. -/
structure Reckons {R : Type} [Quantity R] (q : WorkQueue R Trigger) (now : Duration) (n : Nat) :
    Prop where
  unfailing : q.limiter.Unfailing now
  made : ∃ base max qps, q.limiter.HasSettings base max qps
  count : q.limiter.requeues .changes = min n Failures.limit

namespace Reckons

variable {R : Type} [Quantity R] {q : WorkQueue R Trigger} {now : Duration} {n : Nat}

theorem congr (h : Reckons q now n) {q' : WorkQueue R Trigger} (hlimiter : q'.limiter = q.limiter) :
    Reckons q' now n := by
  refine ⟨?_, ?_, ?_⟩ <;> rw [hlimiter]
  · exact h.unfailing
  · exact h.made
  · exact h.count

theorem forget (h : Reckons q now n) : Reckons (q.forget .changes) now 0 where
  unfailing := h.unfailing.turn (.forget .changes)
  made := by
    obtain ⟨base, max, qps, hmade⟩ := h.made
    exact ⟨base, max, qps, hmade.forget⟩
  count := by
    obtain ⟨base, max, qps, hmade⟩ := h.made
    exact hmade.requeues_forget.trans (Nat.zero_min _).symm

/-- A trigger that failed is counted and comes again. -/
theorem addRateLimited (h : Reckons q now n) :
    ∃ wait q', q.addRateLimited now .changes = (some wait, q') ∧ Reckons q' now (n + 1) ∧
      q'.backlog.shuttingDown = q.backlog.shuttingDown ∧
      (q.backlog.shuttingDown = false → q'.Coming .changes) := by
  let charged := { q with limiter := (q.limiter.charge now Trigger.changes).2 }
  obtain ⟨base, max, qps, hmade⟩ := h.made
  have hcharged : Reckons charged now (n + 1) := by
    refine ⟨h.unfailing.turn (.charge .changes), ⟨base, max, qps, hmade.charge⟩, ?_⟩
    rw [hmade.requeues_charge, h.count]
    omega
  obtain ⟨wait, heq⟩ := RateLimitedQueue.addRateLimited_eq (h.unfailing.delay .changes)
  exact ⟨wait, charged.addAfter now .changes wait, heq,
    hcharged.congr (charged.addAfter_limiter now .changes wait),
    charged.addAfter_shuttingDown now .changes wait,
    fun hopen => RateLimitedQueue.coming_addAfter (q := charged) hopen now wait⟩

end Reckons

/-- What is noted down of passes. -/
inductive PassEvent
  | started
  | failed
  | succeeded
deriving DecidableEq, Repr

namespace PassEvent

def ofResult : Except PassError Unit → PassEvent
  | .ok _ => .succeeded
  | .error _ => .failed

/-- A pass is owed before the first one, and after one that failed until the next one starts. The
latest event stands first. -/
def Owed (past : List PassEvent) : Prop := past = [] ∨ past.head? = some .failed

/-- The failures since the last success. Before the first success one is added for the trigger that
was there from the start. -/
def dues (past : List PassEvent) : Nat :=
  (past.takeWhile (· ≠ .succeeded)).count .failed + if .succeeded ∈ past then 0 else 1

variable (past : List PassEvent)

@[simp] theorem dues_started : dues (.started :: past) = dues past := by simp [dues]

@[simp] theorem dues_failed : dues (.failed :: past) = dues past + 1 := by
  simp [dues, Nat.add_right_comm]

@[simp] theorem dues_succeeded : dues (.succeeded :: past) = 0 := by simp [dues]

end PassEvent

/-- A crew at work, with the time and what was noted down of its passes, the latest first. -/
structure Shift (R ι : Type) where
  crew : Crew (Limiter R Trigger) ι
  now : Duration
  past : List PassEvent := []

inductive ShiftAct (ι : Type)
  /-- A change is told. -/
  | trigger
  /-- The wait of one of the triggers to come is over. -/
  | release (d : Delayed Trigger)
  | wait (d : Duration)
  | shutDown
  | take (w : ι)
  | goOn (w : ι) (answer : (q : PassQuestion) → q.Answer)
  | finish (w : ι)

namespace Shift

variable {R ι : Type} [Quantity R]

abbrev queue (s : Shift R ι) : WorkQueue R Trigger := s.crew.queue

/-- The start of a shift, some time after its limiter was made. -/
def start (base max : Duration) (qps : R) (burst : Nat) (created lead : Duration)
    (queue : WorkQueue R Trigger) : Shift R ι :=
  let now : Duration := ⟨created.nanos + lead.nanos⟩
  let queue := { queue with limiter := .ofSettings base max qps burst created }
  { crew := { queue := (Worker.seed queue now).2 }, now }

/-- What is noted down when a worker asks for the trigger. -/
def begun (s : Shift R ι) (w : ι) : List PassEvent :=
  match s.crew.workers w, s.queue.take.1 with
  | .idle, .item _ => [.started]
  | _, _ => []

/-- What is noted down when the pass of a worker comes to its end. -/
def ended (s : Shift R ι) (w : ι) : List PassEvent :=
  match s.crew.workers w with
  | .busy (.done result) => [.ofResult result]
  | _ => []

variable [DecidableEq ι]

/-- A shift after an act. Passes create a missing registry with a given spec. -/
def perform (spec : RegistrySpec) (s : Shift R ι) : ShiftAct ι → Shift R ι
  | .trigger => { s with crew := s.crew.perform spec (.input (.add .changes)) }
  | .release d => { s with crew := s.crew.perform spec (.input (.release d)) }
  | .wait d => { s with now := ⟨s.now.nanos + d.nanos⟩ }
  | .shutDown => { s with crew := s.crew.perform spec (.input .shutDown) }
  | .take w => { s with crew := s.crew.perform spec (.take w), past := s.begun w ++ s.past }
  | .goOn w answer => { s with crew := s.crew.perform spec (.goOn w answer) }
  | .finish w =>
    { s with crew := s.crew.perform spec (.finish w s.now), past := s.ended w ++ s.past }

open PassEvent (Owed dues)

/-- The limiter has counted the failures that are due, and a pass that is owed is coming. -/
structure Sound (s : Shift R ι) : Prop where
  reckons : Reckons s.queue s.now (dues s.past)
  coming : s.queue.backlog.shuttingDown = false → Owed s.past → s.queue.Coming .changes

variable {s : Shift R ι} {spec : RegistrySpec}

omit [DecidableEq ι] in
theorem Sound.start {base max : Duration} {qps : R} {burst : Nat} {created : Duration}
    (hunfailing : (.ofSettings base max qps burst created : Limiter R Trigger).Unfailing created)
    (lead : Duration) (queue : WorkQueue R Trigger) :
    (start base max qps burst created lead queue : Shift R ι).Sound := by
  let fresh : WorkQueue R Trigger :=
    { queue with limiter := .ofSettings base max qps burst created }
  have hfresh : Reckons fresh ⟨created.nanos + lead.nanos⟩ 0 :=
    ⟨hunfailing.turn (.wait lead),
      ⟨base, max, qps, Limiter.hasSettings_ofSettings base max qps burst created⟩,
      Limiter.requeues_ofSettings base max qps burst created Trigger.changes⟩
  obtain ⟨wait, q, hseed, hreckons, hdown, hcoming⟩ := hfresh.addRateLimited
  have hqueue : (Shift.start base max qps burst created lead queue : Shift R ι).queue = q :=
    congrArg Prod.snd hseed
  refine ⟨?_, fun hopen _ => ?_⟩
  · rw [hqueue]
    exact hreckons
  · rw [hqueue] at hopen ⊢
    exact hcoming (hdown.symm.trans hopen)

omit [DecidableEq ι] in
theorem Sound.congr (h : s.Sound) {s' : Shift R ι} (hqueue : s'.queue = s.queue)
    (hnow : s'.now = s.now) (hpast : s'.past = s.past) : s'.Sound := by
  refine ⟨?_, fun hopen howed => ?_⟩
  · rw [hnow, hpast]
    exact h.reckons.congr (congrArg _ hqueue)
  · rw [hqueue] at hopen ⊢
    exact h.coming hopen (hpast ▸ howed)

theorem Sound.release (h : s.Sound) (d : Delayed Trigger) :
    (s.perform spec (.release d)).Sound := by
  by_cases hd : d ∈ s.queue.delayed
  · have hqueue : (s.perform spec (.release d)).queue = s.queue.release d := if_pos hd
    refine ⟨h.reckons.congr (by rw [hqueue]; rfl), fun hopen _ => ?_⟩
    rw [hqueue] at hopen ⊢
    exact RateLimitedQueue.coming_add ((Backlog.add_shuttingDown _ _).symm.trans hopen)
  · exact h.congr (if_neg hd) rfl rfl

theorem take_cases (s : Shift R ι) (spec : RegistrySpec) (w : ι) :
    (s.begun w = [.started] ∧ (s.perform spec (.take w)).queue.limiter = s.queue.limiter) ∨
    (s.begun w = [] ∧ (s.perform spec (.take w)).queue = s.queue) := by
  cases hw : s.crew.workers w with
  | idle =>
      simp only [begun, queue, Shift.perform, Crew.perform, hw, WorkerState.take,
        RateLimitedQueue.take]
      rcases s.crew.queue.backlog.take_cases with
        ⟨x, rest, _, _, htake⟩ | ⟨_, _, htake⟩ | ⟨_, htake⟩
      · rw [htake]
        exact Or.inl ⟨rfl, rfl⟩
      · rw [htake]
        exact Or.inr ⟨rfl, rfl⟩
      · rw [htake]
        exact Or.inr ⟨rfl, rfl⟩
  | _ =>
      exact Or.inr ⟨by simp only [begun, hw],
        by simp only [queue, Shift.perform, Crew.perform, hw, WorkerState.take]⟩

/-- A worker that gets the trigger starts a pass, and then no other pass is owed. -/
theorem Sound.take (h : s.Sound) (w : ι) : (s.perform spec (.take w)).Sound := by
  rcases s.take_cases spec w with ⟨hbegun, hlimiter⟩ | ⟨hbegun, hqueue⟩
  · have hpast : (s.perform spec (.take w)).past = .started :: s.past :=
      congrArg (· ++ s.past) hbegun
    refine ⟨?_, fun _ howed => ?_⟩
    · rw [hpast, PassEvent.dues_started]
      exact h.reckons.congr hlimiter
    · rw [hpast] at howed
      rcases howed with howed | howed <;> cases howed
  · exact h.congr hqueue rfl (congrArg (· ++ s.past) hbegun)

theorem finish_cases (s : Shift R ι) (spec : RegistrySpec) (w : ι) :
    (∃ result, s.ended w = [.ofResult result] ∧
      (s.perform spec (.finish w)).queue = (Worker.settle s.queue s.now result).2) ∨
    (s.ended w = [] ∧ (s.perform spec (.finish w)).queue = s.queue) := by
  simp only [ended, queue, Shift.perform, Crew.perform]
  cases hw : s.crew.workers w with
  | busy rest =>
      cases rest with
      | ask q next => exact Or.inr ⟨rfl, rfl⟩
      | done result =>
          refine Or.inl ⟨result, rfl, ?_⟩
          simp only [WorkerState.finish]
          obtain ⟨wait, q⟩ := Worker.settle s.crew.queue s.now result
          cases wait <;> rfl
  | _ => exact Or.inr ⟨rfl, rfl⟩

/-- A pass that failed adds a failure and is to be tried again, and one that succeeded clears the
account. -/
theorem Sound.finish (h : s.Sound) (w : ι) : (s.perform spec (.finish w)).Sound := by
  rcases s.finish_cases spec w with ⟨result, hended, hqueue⟩ | ⟨hended, hqueue⟩
  · have hpast : (s.perform spec (.finish w)).past = .ofResult result :: s.past :=
      congrArg (· ++ s.past) hended
    cases result with
    | ok _ =>
        refine ⟨?_, fun _ howed => ?_⟩
        · rw [hpast, PassEvent.ofResult, PassEvent.dues_succeeded, hqueue]
          exact h.reckons.forget.congr rfl
        · rw [hpast] at howed
          rcases howed with howed | howed <;> cases howed
    | error e =>
        obtain ⟨wait, q, hadd, hreckons, hdown, hcoming⟩ := h.reckons.addRateLimited
        have hsettle : (s.perform spec (.finish w)).queue = q.done .changes := by
          rw [hqueue, Worker.settle, hadd]
        refine ⟨?_, fun hopen _ => ?_⟩
        · rw [hpast, PassEvent.ofResult, PassEvent.dues_failed, hsettle]
          exact hreckons.congr rfl
        · -- The trigger is dirty, or due later. Its return to the queue changes neither.
          rw [hsettle] at hopen ⊢
          have hopen' := (Backlog.done_shuttingDown q.backlog .changes).symm.trans hopen
          exact (hcoming (hdown.symm.trans hopen')).done .changes
  · exact h.congr hqueue rfl (congrArg (· ++ s.past) hended)

theorem Sound.perform (h : s.Sound) (a : ShiftAct ι) : (s.perform spec a).Sound := by
  cases a with
  | trigger =>
      refine ⟨h.reckons.congr rfl, fun hopen _ => ?_⟩
      exact RateLimitedQueue.coming_add ((Backlog.add_shuttingDown _ _).symm.trans hopen)
  | release d => exact h.release d
  | wait d =>
      exact ⟨⟨h.reckons.unfailing.turn (.wait d), h.reckons.made, h.reckons.count⟩, h.coming⟩
  | shutDown => exact ⟨h.reckons.congr rfl, fun hopen _ => by cases hopen⟩
  | take w => exact h.take w
  | goOn w answer => exact ⟨h.reckons, h.coming⟩
  | finish w => exact h.finish w

theorem Sound.run (h : s.Sound) (acts : List (ShiftAct ι)) :
    (acts.foldl (Shift.perform spec) s).Sound := by
  induction acts generalizing s with
  | nil => exact h
  | cons a acts ih => exact ih (h.perform a)

/-- **A retry is never lost, and failures are counted exactly.** Let the limiter have a delay
whenever it is asked. Then after any acts before the shutdown, if no pass started yet, or the last
one that ended failed and none started since, the trigger is dirty or due later. And the count of
the trigger is that of the passes that failed since the last success, and of the seed if there was
no success yet. -/
theorem retry_is_never_lost {base max : Duration} {qps : R} {burst : Nat} {created : Duration}
    (hunfailing : (.ofSettings base max qps burst created : Limiter R Trigger).Unfailing created)
    (lead : Duration) (queue : WorkQueue R Trigger) (spec : RegistrySpec)
    (acts : List (ShiftAct ι)) :
    let s := acts.foldl (Shift.perform spec) (start base max qps burst created lead queue)
    (s.queue.backlog.shuttingDown = false → s.past = [] ∨ s.past.head? = some .failed →
      .changes ∈ s.queue.backlog.dirty ∨ ∃ d ∈ s.queue.delayed, d.item = .changes) ∧
    s.queue.requeues .changes =
      min ((s.past.takeWhile (· ≠ .succeeded)).count .failed + if .succeeded ∈ s.past then 0 else 1)
        Failures.limit := by
  intro s
  have hs : s.Sound := (Sound.start hunfailing lead queue).run acts
  exact ⟨hs.coming, hs.reckons.count⟩

/-- Nothing can be looked up. -/
def outOfReach : (q : PassQuestion) → q.Answer
  | .registry _ => .error (.notSynced ImageRegistry.kind.name)
  | .deployment _ => .error (.notSynced Deployment.kind.name)
  | .apply _ => .ok ()
  | .remove _ => .ok ()
  | .finalize _ => .ok .pending
  | .write _ r => .ok r
  | .readings => fun _ => ⟨0, 0⟩
  | .report _ => ()

/-- A shift whose first pass fails. -/
def failing : Shift Float Unit :=
  [ShiftAct.trigger, .take (), .goOn () outOfReach, .finish ()].foldl (Shift.perform {})
    (start (.ofMillis 5) (.ofSeconds 1000) 0 100 .zero .zero { limiter := .longest [] })

/-- With the seed that failure makes two. -/
theorem retry_is_never_lost_failing :
    failing.queue.backlog.shuttingDown = false ∧ failing.past = [.failed, .started] ∧
    (.changes ∈ failing.queue.backlog.dirty ∨ ∃ d ∈ failing.queue.delayed, d.item = .changes) ∧
    failing.queue.requeues .changes = 2 := by
  have hunfailing : (Limiter.ofSettings (.ofMillis 5) (.ofSeconds 1000) (0 : Float) 100 .zero :
      Limiter Float Trigger).Unfailing .zero :=
    Limiter.unfailing_ofSettings 100 .zero (by decide +kernel) (by decide +kernel)
  have hpast : failing.past = [.failed, .started] := by decide +kernel
  have hopen : failing.queue.backlog.shuttingDown = false := by decide +kernel
  have hkept := retry_is_never_lost hunfailing .zero { limiter := .longest [] } {}
    [ShiftAct.trigger, .take (), .goOn () outOfReach, .finish ()]
  rw [← failing] at hkept
  obtain ⟨hcoming, hcount⟩ := hkept
  rw [hpast] at hcoming hcount
  exact ⟨hopen, hpast, hcoming hopen (Or.inr rfl), hcount⟩

end Shift
end RegistryOperator
