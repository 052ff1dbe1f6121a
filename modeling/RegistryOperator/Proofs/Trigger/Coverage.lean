import Mathlib.Logic.Function.Basic
import RegistryOperator.Proofs.Trigger.Posting

/-! Several informers that share a queue with several workers. What their watches report comes in any
order, among all else that is done to the queue. No change of an object that may matter is missed:
until a worker is given the trigger again, the trigger stays dirty. -/

namespace RegistryOperator

/-- Informers `I` of objects `κ` and the queue that they share with workers `ι`. -/
structure Lookout (L ι : Type) {I : Type} (κ : I → Type) [∀ i, Resource (κ i)] where
  shared : SharedQueue L Trigger ι
  informers : (i : I) → Informer (κ i) := fun _ => {}
  /-- The caches when the trigger was last given out, empty ones before. -/
  seen : (i : I) → Cache (κ i) := fun _ => {}

/-- What can happen to informers and to the queue that they share. -/
inductive LookoutAct (ι : Type) {I : Type} (κ : I → Type) [∀ i, Resource (κ i)]
  | watch (i : I) (event : WatchEvent (Entry (κ i)))
  | resync (i : I)
  | queue (a : QueueAct Trigger ι)

namespace Lookout

variable {L ι I : Type} {κ : I → Type} [∀ i, Resource (κ i)]

/-- What a clean trigger stands for: every cache shows of the objects that may matter what it showed
when the trigger was last given out. -/
structure Covered (funnel : I → Funnel) (namespaced : I → Bool) (s : Lookout L ι κ) : Prop where
  inOrder : s.shared.InOrder
  uniform : ∀ i, Cache.Uniform (namespaced i) (s.informers i).cache.entries
  unchanged : s.shared.queue.backlog.shuttingDown = false →
    .changes ∉ s.shared.queue.backlog.dirty →
    ∀ i, (funnel i).versions (s.informers i).cache = (funnel i).versions (s.seen i)

variable {kind : I → Kind} {funnel : I → Funnel} {namespaced : I → Bool} {s : Lookout L ι κ}

theorem Covered.start (limiter : L) :
    Covered funnel namespaced ({ shared := { queue := { limiter } } } : Lookout L ι κ) :=
  ⟨.start limiter, fun _ _ hmem => absurd hmem List.not_mem_nil, fun _ _ _ => rfl⟩

variable [DecidableEq ι] [DecidableEq I] [RateLimiter L Trigger]

def perform (kind : I → Kind) (funnel : I → Funnel) (s : Lookout L ι κ) :
    LookoutAct ι κ → Lookout L ι κ
  | .watch i event =>
    { s with
      shared.queue := (s.informers i).notify (kind i) (funnel i) s.shared.queue event
      informers := Function.update s.informers i ((s.informers i).apply event) }
  | .resync i => { s with shared.queue := (s.informers i).resync (funnel i) s.shared.queue }
  | .queue a =>
    { s with
      shared := s.shared.perform a
      seen := if s.shared.event? a = some (.handedOut .changes) then fun i => (s.informers i).cache
        else s.seen }

def run (kind : I → Kind) (funnel : I → Funnel) (limiter : L) (acts : List (LookoutAct ι κ)) :
    Lookout L ι κ :=
  acts.foldl (perform kind funnel) { shared := { queue := { limiter } } }

/-- One of some acts hands out the trigger. -/
def GivesOut (kind : I → Kind) (funnel : I → Funnel) (s : Lookout L ι κ) :
    List (LookoutAct ι κ) → Prop
  | [] => False
  | a :: acts =>
    (∃ b, a = .queue b ∧ s.shared.event? b = some (.handedOut .changes)) ∨
      GivesOut kind funnel (s.perform kind funnel a) acts

/-- To the queue each act is one turn, and only a worker is given the trigger. -/
theorem perform_turn (kind : I → Kind) (funnel : I → Funnel) (s : Lookout L ι κ)
    (a : LookoutAct ι κ) :
    ∃ e, SharedQueue.Turn s.shared e (s.perform kind funnel a).shared ∧
      (e = some (.handedOut .changes) → ∃ b, a = .queue b ∧ s.shared.event? b = e) := by
  cases a with
  | watch i event =>
      rcases (s.informers i).notify_cases (kind i) (funnel i) s.shared.queue event with
        ⟨_, hqueue⟩ | ⟨_, hqueue⟩
      · exact ⟨_, .added .changes (congrArg _ hqueue) rfl, fun heq => by cases heq⟩
      · exact ⟨_, .idle (congrArg _ hqueue) rfl, fun heq => by cases heq⟩
  | resync i =>
      have hqueue := (s.informers i).resync_eq (funnel i) s.shared.queue
      exact ⟨_, .idle (congrArg _ hqueue) rfl, fun heq => by cases heq⟩
  | queue a => exact ⟨_, s.shared.perform_turn a, fun _ => ⟨a, rfl, rfl⟩⟩

theorem open_of_foldl {acts : List (LookoutAct ι κ)}
    (hopen : (acts.foldl (perform kind funnel) s).shared.queue.backlog.shuttingDown = false) :
    s.shared.queue.backlog.shuttingDown = false := by
  induction acts generalizing s with
  | nil => exact hopen
  | cons a acts ih =>
      obtain ⟨_, hturn, _⟩ := s.perform_turn kind funnel a
      exact SharedQueue.shuttingDown_turn hturn (ih hopen)

/-- Until it is handed out a dirty trigger stays dirty. -/
theorem dirty_or_givesOut {acts : List (LookoutAct ι κ)}
    (hopen : (acts.foldl (perform kind funnel) s).shared.queue.backlog.shuttingDown = false)
    (hdirty : .changes ∈ s.shared.queue.backlog.dirty) :
    .changes ∈ (acts.foldl (perform kind funnel) s).shared.queue.backlog.dirty ∨
      GivesOut kind funnel s acts := by
  induction acts generalizing s with
  | nil => exact Or.inl hdirty
  | cons a acts ih =>
      obtain ⟨e, hturn, hgiven⟩ := s.perform_turn kind funnel a
      by_cases he : e = some (.handedOut .changes)
      · obtain ⟨b, ha, hb⟩ := hgiven he
        exact Or.inr (Or.inl ⟨b, ha, hb.trans he⟩)
      · have hkept := SharedQueue.mem_dirty_turn hturn (open_of_foldl hopen) he hdirty
        exact (ih hopen hkept).imp_right Or.inr

/-- A change that a cache shows makes the trigger dirty. -/
theorem Covered.dirty_of_changed (h : Covered funnel namespaced s) {i : I}
    {event : WatchEvent (Entry (κ i))} (hevent : Cache.Uniform (namespaced i) event.objects)
    (hopen : s.shared.queue.backlog.shuttingDown = false)
    (hchanged : (funnel i).versions ((s.informers i).cache.apply event) ≠
      (funnel i).versions (s.informers i).cache) :
    .changes ∈ (s.perform kind funnel (.watch i event)).shared.queue.backlog.dirty := by
  obtain ⟨key, hkey⟩ := Function.ne_iff.mp hchanged
  have hposts := Funnel.posts_of_changed (kind i) (h.uniform i) hevent hkey
  have hqueue : (s.perform kind funnel (.watch i event)).shared.queue =
      s.shared.queue.add .changes := Funnel.handleAll_of_some _ hposts
  rw [hqueue]
  exact (Backlog.mem_dirty_add _ _ hopen).mpr (Or.inl rfl)

theorem Covered.watch (h : Covered funnel namespaced s) {i : I} {event : WatchEvent (Entry (κ i))}
    (hevent : Cache.Uniform (namespaced i) event.objects) :
    Covered funnel namespaced (s.perform kind funnel (.watch i event)) := by
  obtain ⟨e, hturn, hgiven⟩ := s.perform_turn kind funnel (.watch i event)
  have hkept : e ≠ some (.handedOut .changes) := by
    intro he
    obtain ⟨b, hb, _⟩ := hgiven he
    cases hb
  refine ⟨h.inOrder.turn hturn, fun j => ?_, fun hopen hclean j => ?_⟩
  · by_cases hj : j = i
    · subst hj
      simp only [perform, Function.update_self]
      exact (h.uniform j).apply hevent
    · simp only [perform, Function.update_of_ne hj]
      exact h.uniform j
  · have hopen' := SharedQueue.shuttingDown_turn hturn hopen
    have hclean' := mt (SharedQueue.mem_dirty_turn hturn hopen hkept) hclean
    have hold := h.unchanged hopen' hclean' j
    by_cases hj : j = i
    · subst hj
      simp only [perform, Function.update_self]
      rw [← hold]
      by_contra hchanged
      exact hclean (h.dirty_of_changed hevent hopen' hchanged)
    · simpa only [perform, Function.update_of_ne hj] using hold

theorem Covered.resync (h : Covered funnel namespaced s) (i : I) :
    Covered funnel namespaced (s.perform kind funnel (.resync i)) := by
  have hsame : s.perform kind funnel (.resync i) = s := by
    rw [perform, Informer.resync_eq]
  rw [hsame]
  exact h

theorem Covered.queue (h : Covered funnel namespaced s) (a : QueueAct Trigger ι) :
    Covered funnel namespaced (s.perform kind funnel (.queue a)) := by
  have hturn := s.shared.perform_turn a
  refine ⟨h.inOrder.turn hturn, h.uniform, fun hopen hclean i => ?_⟩
  by_cases hgiven : s.shared.event? a = some (.handedOut .changes)
  · simp only [perform, if_pos hgiven]
  · simp only [perform, if_neg hgiven]
    have hopen' := SharedQueue.shuttingDown_turn hturn hopen
    have hclean' := mt (SharedQueue.mem_dirty_turn hturn hopen hgiven) hclean
    exact h.unchanged hopen' hclean' i

theorem run_covered (kind : I → Kind) (funnel : I → Funnel) (limiter : L)
    {acts : List (LookoutAct ι κ)}
    (hnamespaced : ∀ i event, .watch i event ∈ acts → Cache.Uniform (namespaced i) event.objects) :
    Covered funnel namespaced (run kind funnel limiter acts) := by
  induction acts using List.reverseRecOn with
  | nil => exact .start limiter
  | append_singleton acts a ih =>
      have h := ih fun i event hmem => hnamespaced i event (List.mem_append_left _ hmem)
      simp only [run, List.foldl_append, List.foldl_cons, List.foldl_nil]
      cases a with
      | watch i event =>
          exact h.watch (hnamespaced i event (List.mem_append_right _ List.mem_cons_self))
      | resync i => exact h.resync i
      | queue a => exact h.queue a

/-- **No change is missed.** While the trigger is clean, every cache shows the versions of the objects
that may matter that it showed when the trigger was last given out. After an event that changed what
its cache shows, the trigger is dirty until it is given out again. And while it is dirty, it is queued
or it will be when the worker that has it returns it. -/
theorem no_change_is_missed (kind : I → Kind) (funnel : I → Funnel) (limiter : L)
    (acts : List (LookoutAct ι κ))
    (hnamespaced : ∀ i event, .watch i event ∈ acts → Cache.Uniform (namespaced i) event.objects)
    (hopen : (run kind funnel limiter acts).shared.queue.backlog.shuttingDown = false) :
    let s := run kind funnel limiter acts
    (.changes ∉ s.shared.queue.backlog.dirty →
      ∀ i, (funnel i).versions (s.informers i).cache = (funnel i).versions (s.seen i)) ∧
    (∀ earlier i event later, acts = earlier ++ .watch i event :: later →
      let before := run kind funnel limiter earlier
      (funnel i).versions ((before.informers i).cache.apply event) ≠
        (funnel i).versions (before.informers i).cache →
      .changes ∈ s.shared.queue.backlog.dirty ∨
        GivesOut kind funnel (before.perform kind funnel (.watch i event)) later) ∧
    (.changes ∈ s.shared.queue.backlog.dirty →
      .changes ∈ s.shared.queue.backlog.ready ∨
      ∃ w, (w, .changes) ∈ s.shared.held ∧
        .changes ∈ (s.shared.perform (.done w .changes)).queue.backlog.ready) := by
  have h := run_covered kind funnel limiter hnamespaced
  refine ⟨h.unchanged hopen, ?_, h.inOrder.due_of_dirty hopen⟩
  rintro earlier i event later rfl before hchanged
  rw [run, List.foldl_append, List.foldl_cons] at hopen ⊢
  have hearlier := run_covered kind funnel limiter fun j event' hmem =>
    hnamespaced j event' (List.mem_append_left _ hmem)
  have hevent := hnamespaced i event (List.mem_append_right _ List.mem_cons_self)
  obtain ⟨_, hturn, _⟩ := perform_turn kind funnel (run kind funnel limiter earlier) (.watch i event)
  have hopen' := SharedQueue.shuttingDown_turn hturn (open_of_foldl hopen)
  exact dirty_or_givesOut hopen (hearlier.dirty_of_changed hevent hopen' hchanged)

/-- The secret `pull` at some version. -/
def pullSecret (version : String) : Entry Metadata where
  key := ⟨"pull", some "apps"⟩
  object := { name := some "pull", ns := some "apps", resourceVersion := some version }
  named := rfl

/-- The secret is listed, and changes while a worker has the trigger. -/
def secretActs : List (LookoutAct Unit fun _ : Bool => Metadata) :=
  [.watch true (.restarted [pullSecret "1"]), .queue (.get ()), .resync true,
    .watch true (.applied (pullSecret "2"))]

def secretRun : Lookout (Limiter Float Trigger) Unit fun _ : Bool => Metadata :=
  run (fun _ => ⟨"Secret", "", "v1", "secrets"⟩) (fun _ => { watched := ⟨"Secret", none⟩ })
    (.longest []) secretActs

theorem no_change_is_missed_secret :
    secretRun.shared.queue.backlog.shuttingDown = false ∧
    .changes ∈ secretRun.shared.queue.backlog.dirty ∧
    (.changes ∈ secretRun.shared.queue.backlog.ready ∨
      ∃ w, (w, .changes) ∈ secretRun.shared.held ∧
        .changes ∈ (secretRun.shared.perform (.done w .changes)).queue.backlog.ready) := by
  have hnamespaced : ∀ i event, .watch i event ∈ secretActs →
      Cache.Uniform true event.objects := by
    intro i event hmem e he
    simp only [secretActs, List.mem_cons, LookoutAct.watch.injEq, reduceCtorEq, List.not_mem_nil,
      or_false, false_or] at hmem
    rcases hmem with ⟨rfl, hevent⟩ | ⟨rfl, hevent⟩
    · cases hevent
      rw [List.mem_singleton.mp he]
      rfl
    · cases hevent
      rw [List.mem_singleton.mp he]
      rfl
  have hopen : secretRun.shared.queue.backlog.shuttingDown = false := by decide
  have hdirty : .changes ∈ secretRun.shared.queue.backlog.dirty := by decide
  obtain ⟨_, _, hdue⟩ := no_change_is_missed _ _ _ secretActs hnamespaced hopen
  exact ⟨hopen, hdirty, hdue hdirty⟩

end Lookout
end RegistryOperator
