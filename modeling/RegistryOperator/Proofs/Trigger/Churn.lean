import Mathlib.Data.Multiset.Filter
import RegistryOperator.Proofs.Cache.Keys
import RegistryOperator.Proofs.Trigger.Coverage

/-! Churn does not wake the operator. Two runs that differ in inputs that do not matter keep caches
that may differ, but not in the versions of the objects that may matter; and what becomes of an
event is a question of these versions alone. So the queue, what is handed out and what leads to
triggers are the same in both, step by step. -/

namespace RegistryOperator

/-- What led to a trigger: an object at some version, and what happened to it. -/
structure Cause where
  key : ObjectKey
  version : Option String
  happening : Happening
deriving DecidableEq

namespace Cause

def of (m : Metadata) (happening : Happening) : Cause :=
  ⟨⟨m.shownName, m.ns⟩, m.resourceVersion, happening⟩

/-- The cause that is something that happened to an entry. -/
def ofEntry {α : Type} [Resource α] (happening : Happening) (e : Entry α) : Cause :=
  ⟨e.key, e.version, happening⟩

theorem of_metadata {α : Type} [Resource α] (happening : Happening) (e : Entry α) :
    of e.metadata happening = ofEntry happening e := by
  rw [of, ofEntry, Entry.metadata_shownName, Entry.metadata_ns]
  rfl

end Cause

namespace Funnel

variable {α : Type} [Resource α] {f : Funnel} {c c' : Cache α} {e : Entry α} {namespaced : Bool}

/-- What a notification leads to a trigger for, if it does. -/
def causeOf? (f : Funnel) (n : Notification α) : Option Cause :=
  (f.cause? n).map fun (m, happening) => .of m happening

/-- What leads to triggers among some notifications. -/
def causes (f : Funnel) (ns : List (Notification α)) : Multiset Cause := ns.filterMap f.causeOf?

theorem causeOf?_of_subject (f : Funnel) {n : Notification α} {happening : Happening}
    (hsubject : n.subject? = some (e.object, happening)) :
    f.causeOf? n = if f.isRelevant e.metadata then some (.ofEntry happening e) else none := by
  rw [causeOf?, cause?, hsubject, Option.bind_some, ← Cause.of_metadata]
  change Option.map _ (if f.isRelevant e.metadata = true then _ else _) = _
  split_ifs <;> rfl

theorem posts_eq_causeOf? (f : Funnel) (n : Notification α) :
    f.posts n = (f.causeOf? n).isSome := by
  rw [posts, causeOf?, Option.isSome_map]

/-- What becomes of an object that is there, by the version of it that was seen before. -/
def verdict (f : Funnel) (e : Entry α) (seen : Option (Option String)) : Option Cause :=
  if f.isRelevant e.metadata ∧ seen ≠ some e.version then
    some (.ofEntry (if seen.isSome then .update else .add) e)
  else none

theorem versions_of_get? (hget : c.get? e.key = some e) :
    f.versions c e.key = if f.isRelevant e.metadata then some e.version else none := by
  rw [versions, hget]
  cases hrel : f.isRelevant e.metadata with
  | true => exact version?_of_relevant hrel
  | false => exact version?_of_irrelevant hrel

/-- An echo leads to nothing, whether the object may matter or not. -/
theorem causeOf?_echo (f : Funnel) {old : Entry α} (hversion : old.version = e.version) :
    f.causeOf? (.updated old.object e.object) = none := by
  have hsubject : (Notification.updated old.object e.object).subject? = none := if_pos hversion
  rw [causeOf?, cause?, hsubject, Option.bind_none, Option.map_none]

theorem causeOf?_presence (hfind : c.find? e.key = c.get? e.key) :
    f.causeOf? (c.presence e) = f.verdict e (f.versions c e.key) := by
  rw [Cache.presence, hfind, verdict, versions]
  cases hget : c.get? e.key with
  | none =>
      have hadded : f.causeOf? (.added e.object) = _ := causeOf?_of_subject f rfl
      simp [hadded, version?_none]
  | some old =>
      have hcongr := isRelevant_congr f (Cache.get?_key hget)
      dsimp only
      by_cases hversion : old.version = e.version
      · rw [causeOf?_echo f hversion, if_neg]
        rintro ⟨hrel, hseen⟩
        exact hseen ((version?_of_relevant (hcongr.trans hrel)).trans (congrArg some hversion))
      · have hsubject : (Notification.updated old.object e.object).subject? =
            some (e.object, .update) := if_neg hversion
        rw [causeOf?_of_subject f hsubject]
        cases hrel : f.isRelevant e.metadata with
        | true => simp [version?_of_relevant (hcongr.trans hrel), hversion]
        | false => simp

theorem causes_vanished (f : Funnel) (gone : List (Entry α)) (text : Entry α → String) :
    f.causes (gone.map fun e => .vanished (text e) (some e.object)) =
      ((gone.filter (f.isRelevant ·.metadata)).map (Cause.ofEntry .delete) : List Cause) := by
  rw [causes, Multiset.coe_eq_coe]
  refine List.Perm.of_eq ?_
  rw [List.filterMap_map]
  induction gone with
  | nil => rfl
  | cons e gone ih =>
      have he : f.causeOf? (.vanished (text e) (some e.object)) = _ := causeOf?_of_subject f rfl
      rw [List.filterMap_cons, Function.comp_apply, he, ih]
      cases hrel : f.isRelevant e.metadata <;> simp [hrel]

/-- A loss that leads to a trigger is that of a version that was seen, at a key that is not
listed. -/
theorem mem_lost (hc : c.Distinct) {es : List (Entry α)} {cause : Cause} :
    cause ∈ ((c.missingFrom es).filter (f.isRelevant ·.metadata)).map (Cause.ofEntry .delete) ↔
      ∃ version, f.versions c cause.key = some version ∧ (∀ e ∈ es, e.key ≠ cause.key) ∧
        cause = ⟨cause.key, version, .delete⟩ := by
  rw [List.mem_map]
  constructor
  · rintro ⟨e, hmem, rfl⟩
    obtain ⟨hmissing, hrel⟩ := List.mem_filter.mp hmem
    obtain ⟨hcached, hunlisted⟩ := Cache.mem_missingFrom.mp hmissing
    refine ⟨e.version, ?_, hunlisted, rfl⟩
    exact (versions_of_get? (hc.get?_of_mem hcached)).trans (if_pos hrel)
  · rintro ⟨version, hseen, hunlisted, hcause⟩
    rw [versions, version?, Option.map_eq_some_iff] at hseen
    obtain ⟨e, hfound, hversion⟩ := hseen
    obtain ⟨hget, hrel⟩ := Option.filter_eq_some_iff.mp hfound
    have hkey := Cache.get?_key hget
    have hmissing : e ∈ c.missingFrom es := by
      refine Cache.mem_missingFrom.mpr ⟨Cache.get?_mem hget, fun e' he' => ?_⟩
      rw [hkey]
      exact hunlisted e' he'
    refine ⟨e, List.mem_filter.mpr ⟨hmissing, hrel⟩, ?_⟩
    rw [hcause, Cause.ofEntry, hkey, hversion]

theorem nodup_lost (hc : c.Distinct) (es : List (Entry α)) :
    (((c.missingFrom es).filter (f.isRelevant ·.metadata)).map (Cause.ofEntry .delete)).Nodup := by
  refine List.Nodup.of_map Cause.key ?_
  rw [List.map_map]
  exact hc.sublist ((List.filter_sublist.trans List.filter_sublist).map Entry.key)

/-- **What an event leads to is a question of the versions that are seen.** -/
theorem causes_congr (kind : Kind) {event : WatchEvent (Entry α)} (hc : c.Distinct)
    (hc' : c'.Distinct) (huniform : Cache.Uniform namespaced c.entries)
    (huniform' : Cache.Uniform namespaced c'.entries)
    (hevent : Cache.Uniform namespaced event.objects) (hseen : f.versions c = f.versions c') :
    f.causes (c.notifications kind event) = f.causes (c'.notifications kind event) := by
  have hpresence : ∀ e ∈ event.objects, f.causeOf? (c.presence e) = f.causeOf? (c'.presence e) := by
    intro e he
    rw [causeOf?_presence (huniform.find?_eq (hevent e he)),
      causeOf?_presence (huniform'.find?_eq (hevent e he)), hseen]
  cases event with
  | applied e =>
      simp only [causes, Cache.notifications, List.filterMap_cons, List.filterMap_nil,
        hpresence e List.mem_cons_self]
  | deleted e => rfl
  | restarted es =>
      have hpresent : f.causes (es.map c.presence) = f.causes (es.map c'.presence) := by
        rw [causes, causes, List.filterMap_map, List.filterMap_map]
        exact congrArg _ (List.filterMap_congr hpresence)
      have hlost : f.causes ((c.missingFrom es).map fun e =>
            .vanished (e.key.text kind) (some e.object)) =
          f.causes ((c'.missingFrom es).map fun e =>
            .vanished (e.key.text kind) (some e.object)) := by
        rw [causes_vanished, causes_vanished, Multiset.coe_eq_coe,
          List.perm_ext_iff_of_nodup (nodup_lost hc es) (nodup_lost hc' es)]
        intro cause
        rw [mem_lost hc, mem_lost hc', hseen]
      have happend : ∀ ns ns' : List (Notification α),
          f.causes (ns ++ ns') = f.causes ns + f.causes ns' := by
        intro ns ns'
        rw [causes, causes, causes, List.filterMap_append, Multiset.coe_add]
      rw [Cache.notifications, Cache.notifications, happend, happend, hpresent, hlost]

theorem posts_iff_causes (f : Funnel) (ns : List (Notification α)) :
    (∃ n ∈ ns, f.posts n = true) ↔ ∃ cause, cause ∈ f.causes ns := by
  simp only [causes, Multiset.mem_coe, List.mem_filterMap, posts_eq_causeOf?,
    Option.isSome_iff_exists]
  exact ⟨fun ⟨n, hn, cause, hcause⟩ => ⟨cause, n, hn, hcause⟩,
    fun ⟨cause, n, hn, hcause⟩ => ⟨n, hn, cause, hcause⟩⟩

theorem causes_replay (f : Funnel) (c : Cache α) : f.causes c.replay = 0 := by
  refine Multiset.eq_zero_of_forall_notMem fun cause hcause => ?_
  obtain ⟨n, hn, hposts⟩ := (posts_iff_causes f _).mpr ⟨cause, hcause⟩
  exact absurd ((posts_replay f c n hn).symm.trans hposts) Bool.false_ne_true

/-- To the queue notifications are no more than what they lead to. -/
theorem handleAll_congr {L : Type} (q : RateLimitedQueue L Trigger) {ns ns' : List (Notification α)}
    (hcauses : f.causes ns = f.causes ns') : f.handleAll q ns = f.handleAll q ns' := by
  have hposts : (∃ n ∈ ns, f.posts n = true) ↔ ∃ n ∈ ns', f.posts n = true := by
    rw [posts_iff_causes, posts_iff_causes, hcauses]
  by_cases hsome : ∃ n ∈ ns, f.posts n = true
  · rw [handleAll_of_some q hsome, handleAll_of_some q (hposts.mp hsome)]
  · have hsome' := mt hposts.mpr hsome
    push Not at hsome hsome'
    rw [handleAll_of_none q fun n hn => by simpa using hsome n hn,
      handleAll_of_none q fun n hn => by simpa using hsome' n hn]

/-- What an event makes the caches show is a question of what they showed. -/
theorem versions_apply_congr (event : WatchEvent (Entry α)) (hseen : f.versions c = f.versions c') :
    f.versions (c.apply event) = f.versions (c'.apply event) := by
  funext key
  have hkey := congrFun hseen key
  cases event with
  | applied e =>
      simp only [versions, Cache.apply, Cache.get?_insert]
      split_ifs
      · rfl
      · exact hkey
  | deleted e =>
      simp only [versions, Cache.apply, Cache.get?_erase]
      split_ifs
      · rfl
      · exact hkey
  | restarted es => simp only [versions, Cache.apply, Cache.get?_ofList]

/-- Whether the funnel passes over an entry because of its name or its namespace. -/
def Foreign (f : Funnel) (e : Entry α) : Prop :=
  (∃ only, f.watched.onlyName = some only ∧ e.key.name ≠ only) ∨
    ∃ ns, e.key.ns = some ns ∧ (∃ name, (ns, name) ∈ f.shared.allowed) ∧
      (ns, e.key.name) ∉ f.shared.allowed

theorem Foreign.irrelevant (h : f.Foreign e) : f.isRelevant e.metadata = false := by
  rw [isRelevant, e.metadata_shownName, e.metadata_ns]
  rcases h with ⟨only, honly, hname⟩ | ⟨ns, hns, ⟨name, hshared⟩, hdenied⟩
  · simp [honly, hname]
  · have hany : f.shared.allowed.any (·.1 = ns) = true :=
      List.any_eq_true.mpr ⟨(ns, name), hshared, decide_eq_true rfl⟩
    simp [hns, SharedNamespaces.permits, hany, hdenied]

theorem versions_of_irrelevant (hrel : f.isRelevant e.metadata = false) :
    f.versions c e.key = none := by
  rw [versions]
  cases hget : c.get? e.key with
  | none => rfl
  | some old =>
      exact version?_of_irrelevant ((isRelevant_congr f (Cache.get?_key hget)).trans hrel)

theorem Foreign.versions_insert (h : f.Foreign e) : f.versions (c.insert e) = f.versions c := by
  funext key
  by_cases hkey : e.key = key
  · rw [← hkey, versions_of_irrelevant h.irrelevant, versions_of_irrelevant h.irrelevant]
  · rw [versions, Cache.get?_insert, if_neg hkey, versions]

theorem Foreign.versions_erase (h : f.Foreign e) : f.versions (c.erase e.key) = f.versions c := by
  funext key
  by_cases hkey : e.key = key
  · rw [← hkey, versions_of_irrelevant h.irrelevant, versions_of_irrelevant h.irrelevant]
  · rw [versions, Cache.get?_erase, if_neg hkey, versions]

/-- An entry of the version that is cached already shows nothing new. -/
theorem versions_insert_same {old : Entry α} (hget : c.get? e.key = some old)
    (hsame : old.version = e.version) : f.versions (c.insert e) = f.versions c := by
  funext key
  by_cases hkey : e.key = key
  · subst hkey
    rw [versions, Cache.get?_insert, if_pos rfl, versions, hget, version?, version?,
      Option.filter_some, Option.filter_some, isRelevant_congr f (Cache.get?_key hget)]
    split_ifs
    · exact congrArg some hsame.symm
    · rfl
  · rw [versions, Cache.get?_insert, if_neg hkey, versions]

end Funnel

/-- What can be put into informers, funnels and the queue. A notification need not come from an
informer. -/
inductive LookoutInput (ι : Type) {I : Type} (κ : I → Type) [∀ i, Resource (κ i)]
  | act (a : LookoutAct ι κ)
  | tell (i : I) (n : Notification (κ i))

/-- An input of a run, marked if it was put in later. -/
structure MarkedInput (ι : Type) {I : Type} (κ : I → Type) [∀ i, Resource (κ i)] where
  input : LookoutInput ι κ
  inserted : Bool := false

/-- What can be seen of one step: the queue after it, what became of an item of the queue, and for
what there was a trigger. -/
structure Sighting (L ι : Type) where
  shared : SharedQueue L Trigger ι
  event : Option (QueueEvent Trigger)
  causes : Multiset Cause

namespace LookoutInput

variable {ι I : Type} {κ : I → Type} [∀ i, Resource (κ i)]

/-- The objects of an event all have a namespace, or none does. -/
def Uniform (namespaced : I → Bool) : LookoutInput ι κ → Prop
  | .act (.watch i event) => Cache.Uniform (namespaced i) event.objects
  | _ => True

end LookoutInput

namespace Lookout

variable {L ι I : Type} {κ : I → Type} [∀ i, Resource (κ i)]

/-- An input that does not matter: a resync, an object at the version that is cached, an object that
the funnel passes over, or a loss of which nothing is known. -/
inductive Irrelevant (funnel : I → Funnel) (s : Lookout L ι κ) : LookoutInput ι κ → Prop
  | resync (i : I) : Irrelevant funnel s (.act (.resync i))
  | echo (i : I) (e old : Entry (κ i)) (hcached : (s.informers i).cache.find? e.key = some old)
      (hsame : old.version = e.version) : Irrelevant funnel s (.act (.watch i (.applied e)))
  | applied (i : I) (e : Entry (κ i)) (h : (funnel i).Foreign e) :
      Irrelevant funnel s (.act (.watch i (.applied e)))
  | deleted (i : I) (e : Entry (κ i)) (h : (funnel i).Foreign e) :
      Irrelevant funnel s (.act (.watch i (.deleted e)))
  | tombstone (i : I) (key : String) : Irrelevant funnel s (.tell i (.vanished key none))

/-- Two lookouts that differ at most in what does not matter. -/
structure Alike (funnel : I → Funnel) (namespaced : I → Bool) (s s' : Lookout L ι κ) : Prop where
  shared : s.shared = s'.shared
  seen : ∀ i, (funnel i).versions (s.informers i).cache = (funnel i).versions (s'.informers i).cache
  distinct : ∀ i, (s.informers i).cache.Distinct ∧ (s'.informers i).cache.Distinct
  uniform : ∀ i, Cache.Uniform (namespaced i) (s.informers i).cache.entries ∧
    Cache.Uniform (namespaced i) (s'.informers i).cache.entries

variable {kind : I → Kind} {funnel : I → Funnel} {namespaced : I → Bool} {s s' : Lookout L ι κ}

theorem Alike.start (limiter : L) :
    Alike funnel namespaced ({ shared := { queue := { limiter } } } : Lookout L ι κ)
      { shared := { queue := { limiter } } } where
  shared := rfl
  seen _ := rfl
  distinct _ := ⟨.empty, .empty⟩
  uniform _ := ⟨fun _ h => absurd h List.not_mem_nil, fun _ h => absurd h List.not_mem_nil⟩

variable [DecidableEq I]

/-- Like lookouts stay alike if one informer of each is replaced by one that shows the same. -/
theorem Alike.update (h : Alike funnel namespaced s s') (i : I) {x x' : Informer (κ i)}
    {q q' : RateLimitedQueue L Trigger} (hqueue : q = q')
    (hseen : (funnel i).versions x.cache = (funnel i).versions x'.cache)
    (hdistinct : x.cache.Distinct ∧ x'.cache.Distinct)
    (huniform : Cache.Uniform (namespaced i) x.cache.entries ∧
      Cache.Uniform (namespaced i) x'.cache.entries) :
    Alike funnel namespaced
      { s with shared.queue := q, informers := Function.update s.informers i x }
      { s' with shared.queue := q', informers := Function.update s'.informers i x' } := by
  refine ⟨?_, fun j => ?_, fun j => ?_, fun j => ?_⟩
  · simp only [hqueue, h.shared]
  all_goals by_cases hj : j = i
  · subst hj
    simpa only [Function.update_self] using hseen
  · simpa only [Function.update_of_ne hj] using h.seen j
  · subst hj
    simpa only [Function.update_self] using hdistinct
  · simpa only [Function.update_of_ne hj] using h.distinct j
  · subst hj
    simpa only [Function.update_self] using huniform
  · simpa only [Function.update_of_ne hj] using h.uniform j

variable [DecidableEq ι] [RateLimiter L Trigger]

/-- The lookout after an input. -/
def move (kind : I → Kind) (funnel : I → Funnel) (s : Lookout L ι κ) :
    LookoutInput ι κ → Lookout L ι κ
  | .act a => s.perform kind funnel a
  | .tell i n => { s with shared.queue := (funnel i).handle s.shared.queue n }

/-- What there is a trigger for, if an input comes. -/
def causes (kind : I → Kind) (funnel : I → Funnel) (s : Lookout L ι κ) :
    LookoutInput ι κ → Multiset Cause
  | .act (.watch i event) =>
    (funnel i).causes ((s.informers i).cache.notifications (kind i) event)
  | .act (.resync i) => (funnel i).causes (s.informers i).cache.replay
  | .act (.queue _) => 0
  | .tell i n => (funnel i).causes [n]

/-- What becomes of an item of the queue, if an input comes. -/
def queueEvent? (s : Lookout L ι κ) : LookoutInput ι κ → Option (QueueEvent Trigger)
  | .act (.queue a) => s.shared.event? a
  | _ => none

def sight (kind : I → Kind) (funnel : I → Funnel) (s : Lookout L ι κ) (input : LookoutInput ι κ) :
    Sighting L ι :=
  ⟨(s.move kind funnel input).shared, s.queueEvent? input, s.causes kind funnel input⟩

/-- What is seen of the inputs that were not put in later. -/
def sightings (kind : I → Kind) (funnel : I → Funnel) :
    Lookout L ι κ → List (MarkedInput ι κ) → List (Sighting L ι)
  | _, [] => []
  | s, ⟨input, inserted⟩ :: rest =>
    if inserted then sightings kind funnel (s.move kind funnel input) rest
    else s.sight kind funnel input :: sightings kind funnel (s.move kind funnel input) rest

/-- The lookout after all inputs of a run. -/
def proceed (kind : I → Kind) (funnel : I → Funnel) (s : Lookout L ι κ)
    (run : List (MarkedInput ι κ)) : Lookout L ι κ :=
  run.foldl (fun s marked => s.move kind funnel marked.input) s

/-- All that was put in later does not matter where it was put in. -/
def Churned (kind : I → Kind) (funnel : I → Funnel) : Lookout L ι κ → List (MarkedInput ι κ) → Prop
  | _, [] => True
  | s, ⟨input, inserted⟩ :: rest =>
    (inserted = true → Irrelevant funnel s input) ∧
      Churned kind funnel (s.move kind funnel input) rest

theorem perform_resync (kind : I → Kind) (funnel : I → Funnel) (s : Lookout L ι κ) (i : I) :
    s.perform kind funnel (.resync i) = s := by
  rw [perform, Informer.resync_eq]

/-- A watch event is told to like lookouts in like ways. -/
theorem Alike.watch (h : Alike funnel namespaced s s') (i : I) {event : WatchEvent (Entry (κ i))}
    (hevent : Cache.Uniform (namespaced i) event.objects)
    (hcauses : (funnel i).causes ((s.informers i).cache.notifications (kind i) event) =
      (funnel i).causes ((s'.informers i).cache.notifications (kind i) event)) :
    Alike funnel namespaced (s.perform kind funnel (.watch i event))
      (s'.perform kind funnel (.watch i event)) := by
  refine h.update i ?_ (Funnel.versions_apply_congr event (h.seen i)) ?_ ?_
  · rw [Informer.notify, Informer.notify, Funnel.handleAll_congr _ hcauses, h.shared]
  · exact ⟨(h.distinct i).1.apply event, (h.distinct i).2.apply event⟩
  · exact ⟨(h.uniform i).1.apply hevent, (h.uniform i).2.apply hevent⟩

/-- An event that leads to nothing and shows nothing new leaves a lookout as good as it was. -/
theorem Alike.silent (h : Alike funnel namespaced s s') (i : I) {event : WatchEvent (Entry (κ i))}
    (hevent : Cache.Uniform (namespaced i) event.objects)
    (hcauses : (funnel i).causes ((s.informers i).cache.notifications (kind i) event) = 0)
    (hseen : (funnel i).versions ((s.informers i).cache.apply event) =
      (funnel i).versions (s.informers i).cache) :
    Alike funnel namespaced (s.perform kind funnel (.watch i event)) s' := by
  have hnone : (funnel i).handleAll s'.shared.queue
      ((s.informers i).cache.notifications (kind i) event) =
        (funnel i).handleAll s'.shared.queue [] := Funnel.handleAll_congr _ hcauses
  have hqueue : (s.informers i).notify (kind i) (funnel i) s.shared.queue event =
      s'.shared.queue := by
    rw [Informer.notify, h.shared]
    exact hnone
  have hkept : Alike funnel namespaced (s.perform kind funnel (.watch i event))
      { s' with informers := Function.update s'.informers i (s'.informers i) } :=
    h.update i hqueue (hseen.trans (h.seen i)) ⟨(h.distinct i).1.apply event, (h.distinct i).2⟩
      ⟨(h.uniform i).1.apply hevent, (h.uniform i).2⟩
  rwa [Function.update_eq_self] at hkept

/-- Of like lookouts the same is seen when the same comes, and they stay alike. -/
theorem Alike.move (h : Alike funnel namespaced s s') {input : LookoutInput ι κ}
    (hinput : input.Uniform namespaced) :
    Alike funnel namespaced (s.move kind funnel input) (s'.move kind funnel input) ∧
      s.sight kind funnel input = s'.sight kind funnel input := by
  suffices hsame : Alike funnel namespaced (s.move kind funnel input) (s'.move kind funnel input) ∧
      s.queueEvent? input = s'.queueEvent? input ∧
      s.causes kind funnel input = s'.causes kind funnel input by
    obtain ⟨halike, hevent, hcauses⟩ := hsame
    exact ⟨halike, by rw [sight, sight, halike.shared, hevent, hcauses]⟩
  cases input with
  | act a =>
      cases a with
      | watch i event =>
          have hcauses : (funnel i).causes ((s.informers i).cache.notifications (kind i) event) =
              (funnel i).causes ((s'.informers i).cache.notifications (kind i) event) :=
            Funnel.causes_congr (kind i) (h.distinct i).1 (h.distinct i).2 (h.uniform i).1
              (h.uniform i).2 hinput (h.seen i)
          exact ⟨h.watch i hinput hcauses, rfl, hcauses⟩
      | resync i =>
          simp only [Lookout.move, Lookout.causes, perform_resync, Funnel.causes_replay]
          exact ⟨h, rfl, trivial⟩
      | queue a =>
          exact ⟨⟨congrArg (·.perform a) h.shared, h.seen, h.distinct, h.uniform⟩,
            congrArg (·.event? a) h.shared, rfl⟩
  | tell i n =>
      refine ⟨⟨?_, h.seen, h.distinct, h.uniform⟩, rfl, rfl⟩
      simp only [Lookout.move, h.shared]

theorem Alike.stray (h : Alike funnel namespaced s s') {input : LookoutInput ι κ}
    (hinput : input.Uniform namespaced) (hirrelevant : Irrelevant funnel s input) :
    Alike funnel namespaced (s.move kind funnel input) s' := by
  cases hirrelevant with
  | resync i =>
      rw [Lookout.move, perform_resync]
      exact h
  | echo i e old hcached hsame =>
      refine h.silent i hinput ?_ ?_
      · simp [Cache.notifications, Cache.presence, hcached, Funnel.causes,
          Funnel.causeOf?_echo (funnel i) hsame]
      · rw [(h.uniform i).1.find?_eq (hinput e List.mem_cons_self)] at hcached
        exact Funnel.versions_insert_same hcached hsame
  | applied i e hforeign =>
      refine h.silent i hinput ?_ hforeign.versions_insert
      have hfind := (h.uniform i).1.find?_eq (hinput e List.mem_cons_self)
      simp [Cache.notifications, Funnel.causes, Funnel.causeOf?_presence hfind, Funnel.verdict,
        hforeign.irrelevant]
  | deleted i e hforeign =>
      refine h.silent i hinput ?_ hforeign.versions_erase
      have hdeleted : (funnel i).causeOf? (.deleted e.object) = _ :=
        Funnel.causeOf?_of_subject (funnel i) rfl
      simp [Cache.notifications, Funnel.causes, hdeleted, hforeign.irrelevant]
  | tombstone i key => exact ⟨h.shared, h.seen, h.distinct, h.uniform⟩

theorem Alike.sightings (h : Alike funnel namespaced s s') {run : List (MarkedInput ι κ)}
    (huniform : ∀ marked ∈ run, marked.input.Uniform namespaced)
    (hchurned : Churned kind funnel s run) :
    sightings kind funnel s run = sightings kind funnel s' (run.filter (!·.inserted)) ∧
      Alike funnel namespaced (proceed kind funnel s run)
        (proceed kind funnel s' (run.filter (!·.inserted))) := by
  induction run generalizing s s' with
  | nil => exact ⟨rfl, h⟩
  | cons marked rest ih =>
      obtain ⟨input, inserted⟩ := marked
      obtain ⟨hirrelevant, hrest⟩ := hchurned
      have hinput := huniform _ List.mem_cons_self
      have huniform' := fun marked hmem => huniform marked (List.mem_cons_of_mem _ hmem)
      cases inserted with
      | true => exact ih (h.stray hinput (hirrelevant rfl)) huniform' hrest
      | false =>
          have hmove : Alike funnel namespaced (s.move kind funnel input)
              (s'.move kind funnel input) ∧
                s.sight kind funnel input = s'.sight kind funnel input := h.move hinput
          obtain ⟨halike, hsight⟩ := hmove
          obtain ⟨hsights, hend⟩ := ih halike huniform' hrest
          exact ⟨congrArg₂ List.cons hsight hsights, hend⟩

/-- **Churn does not wake the operator.** Inputs that do not matter where they are put into a run
change nothing of what is seen of the run: neither the queue after any other input, nor what is
handed out, nor what leads to triggers. -/
theorem churn_is_unseen (kind : I → Kind) (funnel : I → Funnel) (limiter : L)
    (run : List (MarkedInput ι κ)) (huniform : ∀ marked ∈ run, marked.input.Uniform namespaced)
    (hchurned : Churned kind funnel { shared := { queue := { limiter } } } run) :
    let start : Lookout L ι κ := { shared := { queue := { limiter } } }
    let unchurned := run.filter (!·.inserted)
    sightings kind funnel start run = sightings kind funnel start unchurned ∧
      (proceed kind funnel start run).shared = (proceed kind funnel start unchurned).shared := by
  have h := (Alike.start limiter).sightings huniform hchurned
  exact ⟨h.1, h.2.shared⟩

/-- Secrets matter but for those of `kube-system` that are not on the list. -/
def secretFunnel : Funnel where
  watched := ⟨"Secret", none⟩
  shared := ⟨[("kube-system", "cluster-config-v1")]⟩

/-- A secret of `kube-system` that does not matter. -/
def foreignSecret : Entry Metadata where
  key := ⟨"coredns", some "kube-system"⟩
  object := { name := some "coredns", ns := some "kube-system", resourceVersion := some "7" }
  named := rfl

/-- A secret is listed, and changes while a worker has the trigger; what does not matter comes in
between. -/
def churnedRun : List (MarkedInput Unit fun _ : Unit => Metadata) :=
  [⟨.act (.watch () (.applied foreignSecret)), true⟩,
    ⟨.act (.watch () (.restarted [pullSecret "1"])), false⟩,
    ⟨.act (.watch () (.applied (pullSecret "1"))), true⟩,
    ⟨.act (.queue (.get ())), false⟩,
    ⟨.act (.resync ()), true⟩,
    ⟨.tell () (.vanished "Secret.v1./pull.apps" none), true⟩,
    ⟨.act (.watch () (.deleted foreignSecret)), true⟩,
    ⟨.act (.watch () (.applied (pullSecret "2"))), false⟩]

theorem churn_is_unseen_secrets :
    let secrets : Unit → Kind := fun _ => ⟨"Secret", "", "v1", "secrets"⟩
    let start : Lookout (Limiter Float Trigger) Unit fun _ : Unit => Metadata :=
      { shared := { queue := { limiter := .longest [] } } }
    (∀ marked ∈ churnedRun, marked.input.Uniform fun _ => true) ∧
    Churned secrets (fun _ => secretFunnel) start churnedRun ∧
    sightings secrets (fun _ => secretFunnel) start churnedRun =
      sightings secrets (fun _ => secretFunnel) start (churnedRun.filter (!·.inserted)) := by
  intro secrets start
  have huniform : ∀ marked ∈ churnedRun, marked.input.Uniform fun _ => true := by
    simp [churnedRun, LookoutInput.Uniform, Cache.Uniform, WatchEvent.objects, foreignSecret,
      pullSecret]
  have hforeign : secretFunnel.Foreign foreignSecret :=
    Or.inr ⟨"kube-system", rfl, ⟨"cluster-config-v1", by decide⟩, by decide⟩
  have hchurned : Churned secrets (fun _ => secretFunnel) start churnedRun := by
    simp only [churnedRun, Churned, Bool.false_eq_true, false_implies, true_implies, and_true,
      true_and]
    exact ⟨.applied () _ hforeign, .echo () _ (pullSecret "1") rfl rfl, .resync (), .tombstone () _,
      .deleted () _ hforeign⟩
  obtain ⟨hsightings, _⟩ := churn_is_unseen secrets (fun _ => secretFunnel) _ churnedRun huniform
    hchurned
  exact ⟨huniform, hchurned, hsightings⟩

end Lookout
end RegistryOperator
