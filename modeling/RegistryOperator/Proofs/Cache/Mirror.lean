import Mathlib.Data.List.Induction
import Mathlib.Logic.Function.Basic
import RegistryOperator.Cache.Informer
import RegistryOperator.Cache.Lister
import RegistryOperator.Proofs.Cache.Keys

/-! Whoever hears all that is told of a cache can keep a mirror of it. What is told is calculated
from the cache before an event, and yet a mirror that puts in what was added or updated and takes
out what was deleted shows, after every event, what the cache shows after it. What is told of an
event says exactly how the cache stood to it. -/

namespace RegistryOperator

/-- What is known of the objects of a kind, by their keys. -/
abbrev Mirror (α : Type) := ObjectKey → Option α

namespace Mirror

variable {α : Type} [Resource α]

/-- Puts in an object at its key. -/
def put (m : Mirror α) (x : α) : Mirror α :=
  match ObjectKey.of? (Resource.metadata x) with
  | some key => Function.update m key (some x)
  | none => m

/-- Takes out what is at the key of an object. -/
def drop (m : Mirror α) (x : α) : Mirror α :=
  match ObjectKey.of? (Resource.metadata x) with
  | some key => Function.update m key none
  | none => m

def hear (m : Mirror α) : Notification α → Mirror α
  | .added new => m.put new
  | .updated _ new => m.put new
  | .deleted last => m.drop last
  | .vanished _ (some last) => m.drop last
  | .vanished _ none => m

/-- What a cache shows. -/
def ofCache (c : Cache α) : Mirror α := fun key => (c.get? key).map (·.object)

end Mirror

namespace Informer

variable {α : Type} [Resource α]

/-- The informer after some events. -/
def after (events : List (WatchEvent (Entry α))) : Informer α := events.foldl apply {}

/-- All that an informer tells of some events, in order. -/
def tells (kind : Kind) : Informer α → List (WatchEvent (Entry α)) → List (Notification α)
  | _, [] => []
  | i, event :: rest => i.cache.notifications kind event ++ tells kind (i.apply event) rest

end Informer

/-- The mirror of a cache that went through some events. -/
def Mirror.ofEvents {α : Type} [Resource α] (kind : Kind) (events : List (WatchEvent (Entry α))) :
    Mirror α :=
  (Informer.tells kind {} events).foldl hear fun _ => none

/-- Whether an event lists all objects. -/
def WatchEvent.isRelist {α : Type} : WatchEvent α → Bool
  | .restarted _ => true
  | _ => false

/-- Whether a notification says that the object at a key disappeared unseen. -/
def Notification.isTombstoneAt {α : Type} [Resource α] (key : ObjectKey) : Notification α → Bool
  | .vanished _ (some last) => ObjectKey.of? (Resource.metadata last) = some key
  | _ => false

namespace Mirror

variable {α : Type} [Resource α] {c : Cache α}

theorem put_entry (m : Mirror α) (e : Entry α) :
    m.put e.object = Function.update m e.key (some e.object) := by
  rw [put, e.named]

theorem drop_entry (m : Mirror α) (e : Entry α) :
    m.drop e.object = Function.update m e.key none := by
  rw [drop, e.named]

theorem ofCache_insert (c : Cache α) (e : Entry α) :
    ofCache (c.insert e) = (ofCache c).put e.object := by
  rw [put_entry]
  funext key
  rw [ofCache, Cache.get?_insert, Function.update_apply]
  by_cases hkey : key = e.key
  · simp [hkey]
  · simp [hkey, Ne.symm hkey, ofCache]

theorem ofCache_erase (c : Cache α) (e : Entry α) :
    ofCache (c.erase e.key) = (ofCache c).drop e.object := by
  rw [drop_entry]
  funext key
  rw [ofCache, Cache.get?_erase, Function.update_apply]
  by_cases hkey : key = e.key
  · simp [hkey]
  · simp [hkey, Ne.symm hkey, ofCache]

/-- Whether it is told as added or as updated, an object that is there is put in. -/
theorem hear_presence (m : Mirror α) (c : Cache α) (e : Entry α) :
    m.hear (c.presence e) = m.put e.object := by
  rw [Cache.presence]
  cases c.find? e.key <;> rfl

theorem foldl_hear_presence (c before : Cache α) (es : List (Entry α)) :
    (es.map before.presence).foldl hear (ofCache c) = ofCache (es.foldl Cache.insert c) := by
  induction es generalizing c with
  | nil => rfl
  | cons e es ih =>
      rw [List.map_cons, List.foldl_cons, hear_presence, ← ofCache_insert, ih, List.foldl_cons]

theorem foldl_hear_vanished (m : Mirror α) (gone : List (Entry α)) (text : Entry α → String)
    (key : ObjectKey) :
    (gone.map fun e => .vanished (text e) (some e.object)).foldl hear m key =
      if ∃ e ∈ gone, e.key = key then none else m key := by
  induction gone generalizing m with
  | nil => simp
  | cons e gone ih =>
      have hdrop : m.hear (.vanished (text e) (some e.object)) = m.drop e.object := rfl
      rw [List.map_cons, List.foldl_cons, hdrop, drop_entry, ih]
      by_cases hgone : ∃ e' ∈ gone, e'.key = key
      · rw [if_pos hgone, if_pos (hgone.imp fun _ h => ⟨List.mem_cons_of_mem _ h.1, h.2⟩)]
      · rw [if_neg hgone]
        by_cases hkey : e.key = key
        · rw [if_pos ⟨e, List.mem_cons_self, hkey⟩, hkey, Function.update_self]
        · have hnone : ¬∃ e' ∈ e :: gone, e'.key = key := by simp_all
          rw [if_neg hnone, Function.update_of_ne (Ne.symm hkey)]

/-- **What is told of an event takes a mirror from the cache before it to the cache after it.** -/
theorem foldl_hear_notifications (kind : Kind) (c : Cache α) (event : WatchEvent (Entry α)) :
    (c.notifications kind event).foldl hear (ofCache c) = ofCache (c.apply event) := by
  cases event with
  | applied e => exact (hear_presence _ c e).trans (ofCache_insert c e).symm
  | deleted e => exact (ofCache_erase c e).symm
  | restarted es =>
      funext key
      rw [Cache.notifications, List.foldl_append, foldl_hear_presence, foldl_hear_vanished,
        Cache.apply, ofCache, ofCache, Cache.get?_foldl_insert, Cache.get?_ofList]
      cases hlisted : es.reverse.find? (·.key = key) with
      | some e =>
          -- an object that is listed did not vanish
          have hmem : e ∈ es := List.mem_reverse.mp (List.mem_of_find?_eq_some hlisted)
          have hkey : e.key = key := by simpa using List.find?_some hlisted
          rw [if_neg fun ⟨old, hold, hat⟩ =>
            (Cache.mem_missingFrom.mp hold).2 e hmem (hkey.trans hat.symm)]
          rfl
      | none =>
          rw [Option.none_or]
          split_ifs with hgone
          · rfl
          · -- what is not listed and did not vanish was not there
            cases hold : c.get? key with
            | none => rfl
            | some old =>
                have hunlisted : ∀ e ∈ es, e.key ≠ old.key := by
                  rw [Cache.get?_key hold]
                  simpa using hlisted
                exact absurd ⟨old, Cache.mem_missingFrom.mpr ⟨Cache.get?_mem hold, hunlisted⟩,
                  Cache.get?_key hold⟩ hgone

theorem foldl_hear_tells (kind : Kind) (i : Informer α) (events : List (WatchEvent (Entry α))) :
    (i.tells kind events).foldl hear (ofCache i.cache) = ofCache (events.foldl .apply i).cache := by
  induction events generalizing i with
  | nil => rfl
  | cons event rest ih =>
      rw [Informer.tells, List.foldl_append, foldl_hear_notifications, List.foldl_cons]
      exact ih (i.apply event)

theorem ofEvents_eq (kind : Kind) (events : List (WatchEvent (Entry α))) :
    ofEvents kind events = ofCache (Informer.after events).cache :=
  foldl_hear_tells kind {} events

end Mirror

namespace Cache

variable {α : Type} [Resource α] {c : Cache α} {namespaced : Bool}

/-- What is told of an event says how the cache stood to it before. -/
structure Delta (kind : Kind) (c : Cache α) (event : WatchEvent (Entry α)) : Prop where
  /-- What is added was not there. -/
  added : ∀ new key, .added new ∈ c.notifications kind event →
    ObjectKey.of? (Resource.metadata new) = some key → c.get? key = none
  /-- What is updated is told with what was there. -/
  updated : ∀ old new key, .updated old new ∈ c.notifications kind event →
    ObjectKey.of? (Resource.metadata new) = some key → (c.get? key).map (·.object) = some old
  /-- A list of all objects leads to one tombstone, with what was there, for each key that it lacks,
  and to none for any other. -/
  tombstones : ∀ es, event = .restarted es → ∀ key,
    (c.notifications kind event).filter (·.isTombstoneAt key) =
      if ∃ e ∈ es, e.key = key then []
      else ((c.get? key).map fun e => .vanished (key.text kind) (some e.object)).toList
  /-- No tombstone is without an object. -/
  known : ∀ text, .vanished text none ∉ c.notifications kind event

theorem presence_cases (c : Cache α) (e : Entry α) :
    (∃ old, c.find? e.key = some old ∧ c.presence e = .updated old.object e.object) ∨
      c.find? e.key = none ∧ c.presence e = .added e.object := by
  rw [presence]
  cases hfind : c.find? e.key with
  | none => exact Or.inr ⟨rfl, rfl⟩
  | some old => exact Or.inl ⟨old, rfl, rfl⟩

/-- What is told as added or updated is what an event brings. -/
theorem mem_notifications {kind : Kind} {event : WatchEvent (Entry α)} {n : Notification α}
    (hmem : n ∈ c.notifications kind event) :
    (∃ e ∈ event.objects, n = c.presence e) ∨ (∃ e ∈ event.objects, n = .deleted e.object) ∨
      ∃ text old, n = .vanished text (some old) := by
  cases event with
  | applied e => exact Or.inl ⟨e, List.mem_cons_self, List.mem_singleton.mp hmem⟩
  | deleted e => exact Or.inr (Or.inl ⟨e, List.mem_cons_self, List.mem_singleton.mp hmem⟩)
  | restarted es =>
      rcases List.mem_append.mp hmem with hpresent | hgone
      · obtain ⟨e, he, rfl⟩ := List.mem_map.mp hpresent
        exact Or.inl ⟨e, he, rfl⟩
      · obtain ⟨e, _, rfl⟩ := List.mem_map.mp hgone
        exact Or.inr (Or.inr ⟨_, _, rfl⟩)

theorem isTombstoneAt_presence (c : Cache α) (e : Entry α) (key : ObjectKey) :
    (c.presence e).isTombstoneAt key = false := by
  rcases c.presence_cases e with ⟨old, _, hpresence⟩ | ⟨_, hpresence⟩ <;> rw [hpresence] <;> rfl

theorem isTombstoneAt_vanished (text : String) (e : Entry α) (key : ObjectKey) :
    (Notification.vanished text (some e.object)).isTombstoneAt key = decide (e.key = key) := by
  simp [Notification.isTombstoneAt, e.named]

/-- At one key there is one entry or none. -/
theorem Distinct.filter_key (hc : c.Distinct) (key : ObjectKey) :
    c.entries.filter (·.key = key) = (c.get? key).toList := by
  have hnodup : c.entries.Nodup := List.Nodup.of_map _ hc
  cases hget : c.get? key with
  | none =>
      rw [Option.toList_none, List.filter_eq_nil_iff]
      exact List.find?_eq_none.mp hget
  | some e =>
      have hperm : (c.entries.filter (·.key = key)).Perm [e] := by
        refine (List.perm_ext_iff_of_nodup (hnodup.filter _) (List.nodup_singleton e)).mpr ?_
        intro e'
        rw [List.mem_filter, List.mem_singleton, decide_eq_true_eq]
        constructor
        · rintro ⟨hmem, hkey⟩
          rw [← hkey, hc.get?_of_mem hmem] at hget
          exact Option.some.inj hget
        · rintro rfl
          exact ⟨get?_mem hget, get?_key hget⟩
      exact List.perm_singleton.mp hperm

theorem Distinct.filter_missingFrom (hc : c.Distinct) (es : List (Entry α)) (key : ObjectKey) :
    (c.missingFrom es).filter (·.key = key) =
      if ∃ e ∈ es, e.key = key then [] else (c.get? key).toList := by
  rw [missingFrom, List.filter_comm, hc.filter_key]
  cases hget : c.get? key with
  | none => simp
  | some old =>
      rw [Option.toList_some, List.filter_singleton, get?_key hget]
      by_cases hlisted : ∃ e ∈ es, e.key = key
      · have hany : es.any (·.key = key) = true := by simpa using hlisted
        rw [hany, if_pos hlisted, Bool.not_true, cond_false]
      · have hany : es.any (·.key = key) = false := by simpa using hlisted
        rw [hany, if_neg hlisted, Bool.not_false, cond_true]

theorem Distinct.filter_tombstones (hc : c.Distinct) (kind : Kind) (es : List (Entry α))
    (key : ObjectKey) :
    (c.notifications kind (.restarted es)).filter (·.isTombstoneAt key) =
      if ∃ e ∈ es, e.key = key then []
      else ((c.get? key).map fun e => .vanished (key.text kind) (some e.object)).toList := by
  have hpresent : (es.map c.presence).filter (·.isTombstoneAt key) = [] := by
    rw [List.filter_eq_nil_iff]
    intro n hn
    obtain ⟨e, _, rfl⟩ := List.mem_map.mp hn
    simp [isTombstoneAt_presence]
  have hgone : ((c.missingFrom es).map fun e =>
        Notification.vanished (e.key.text kind) (some e.object)).filter (·.isTombstoneAt key) =
      ((c.missingFrom es).filter (·.key = key)).map fun e =>
        .vanished (e.key.text kind) (some e.object) := by
    rw [List.filter_map]
    congr 1
    exact List.filter_congr fun e _ => isTombstoneAt_vanished (e.key.text kind) e key
  rw [notifications, List.filter_append, hpresent, List.nil_append, hgone, hc.filter_missingFrom]
  split_ifs
  · rfl
  · cases hget : c.get? key with
    | none => rfl
    | some old => simp [get?_key hget]

theorem Distinct.delta (hc : c.Distinct) (kind : Kind) {event : WatchEvent (Entry α)}
    (huniform : Uniform namespaced c.entries) (hevent : Uniform namespaced event.objects) :
    Delta kind c event := by
  refine ⟨fun new key hmem hkey => ?_, fun old new key hmem hkey => ?_, ?_, fun text hmem => ?_⟩
  · rcases mem_notifications hmem with ⟨e, he, hn⟩ | ⟨e, _, hn⟩ | ⟨_, _, hn⟩
    · rcases c.presence_cases e with ⟨_, _, hpresence⟩ | ⟨hfind, hpresence⟩
      · cases hn.trans hpresence
      · cases hn.trans hpresence
        rw [← Option.some.inj (e.named.symm.trans hkey), ← huniform.find?_eq (hevent e he), hfind]
    · cases hn
    · cases hn
  · rcases mem_notifications hmem with ⟨e, he, hn⟩ | ⟨e, _, hn⟩ | ⟨_, _, hn⟩
    · rcases c.presence_cases e with ⟨found, hfind, hpresence⟩ | ⟨_, hpresence⟩
      · cases hn.trans hpresence
        rw [← Option.some.inj (e.named.symm.trans hkey), ← huniform.find?_eq (hevent e he), hfind]
        rfl
      · cases hn.trans hpresence
    · cases hn
    · cases hn
  · rintro es rfl key
    exact hc.filter_tombstones kind es key
  · rcases mem_notifications hmem with ⟨e, _, hn⟩ | ⟨e, _, hn⟩ | ⟨_, _, hn⟩
    · rcases c.presence_cases e with ⟨_, _, hpresence⟩ | ⟨_, hpresence⟩ <;>
        cases hn.trans hpresence
    · cases hn
    · cases hn

end Cache

namespace Informer

variable {α : Type} [Resource α] {namespaced : Bool}

theorem after_concat (events : List (WatchEvent (Entry α))) (event : WatchEvent (Entry α)) :
    after (events ++ [event]) = (after events).apply event := by
  simp only [after, List.foldl_append, List.foldl_cons, List.foldl_nil]

theorem after_distinct (events : List (WatchEvent (Entry α))) : (after events).cache.Distinct := by
  induction events using List.reverseRecOn with
  | nil => exact .empty
  | append_singleton events event ih =>
      rw [after_concat]
      exact ih.apply event

theorem after_uniform {events : List (WatchEvent (Entry α))}
    (hevents : ∀ event ∈ events, Cache.Uniform namespaced event.objects) :
    Cache.Uniform namespaced (after events).cache.entries := by
  induction events using List.reverseRecOn with
  | nil => exact fun _ hmem => absurd hmem List.not_mem_nil
  | append_singleton events event ih =>
      rw [after_concat]
      exact (ih fun earlier hmem => hevents earlier (List.mem_append_left _ hmem)).apply
        (hevents event (List.mem_append_right _ List.mem_cons_self))

/-- An informer is synced once there was a list of all objects. -/
theorem after_synced (events : List (WatchEvent (Entry α))) :
    (after events).synced = events.any (·.isRelist) := by
  induction events using List.reverseRecOn with
  | nil => rfl
  | append_singleton events event ih =>
      rw [after_concat, List.any_append, ← ih]
      cases event <;> simp [apply, WatchEvent.isRelist]

theorem lookUp_after (kind : Kind) (events : List (WatchEvent (Entry α))) {key shown : ObjectKey}
    (hfind : (after events).cache.find? key = (after events).cache.get? shown) :
    (after events).lookUp kind key =
      if events.any (·.isRelist) then .ok (Mirror.ofEvents kind events shown)
      else .error (.notSynced kind.name) := by
  rw [lookUp, after_synced, Mirror.ofEvents_eq, hfind]
  rfl

end Informer

/-- In a cache of objects without a namespace a key finds what is at the same name. -/
theorem Cache.Uniform.find?_outside {α : Type} [Resource α] {c : Cache α}
    (hc : Uniform false c.entries) (key : ObjectKey) :
    c.find? key = c.get? key.withoutNamespace := by
  rw [find?]
  cases hget : c.get? key with
  | none => rw [Option.none_or]
  | some e =>
      have hns := hc e (get?_mem hget)
      rw [get?_key hget, Option.isSome_eq_false_iff, Option.isNone_iff_eq_none] at hns
      have hself : key.withoutNamespace = key := by rw [ObjectKey.withoutNamespace, ← hns]
      rw [hself, hget, Option.or_self]

namespace Mirror

/-- **A mirror follows its cache.** After every event it shows what the cache shows; what is told of
the next event says how the cache stands to it; and what is found by name, once all objects were
listed, is what the mirrors show: of registries outside all namespaces, and of deployments in the
namespace of the operator or, where deployments have no namespace, outside all namespaces too. -/
theorem follows_cache {α : Type} [Resource α] {namespaced deploymentsNamespaced : Bool}
    (kind : Kind) (events : List (WatchEvent (Entry α)))
    (hevents : ∀ event ∈ events, Cache.Uniform namespaced event.objects) (ns : String)
    (ofRegistries : List (WatchEvent (Entry ImageRegistry)))
    (ofDeployments : List (WatchEvent (Entry Deployment)))
    (hdeployments : ∀ event ∈ ofDeployments, Cache.Uniform deploymentsNamespaced event.objects)
    (name : String) :
    (∀ earlier later, events = earlier ++ later →
      ofEvents kind earlier = ofCache (Informer.after earlier).cache) ∧
    (∀ earlier event later, events = earlier ++ event :: later →
      Cache.Delta kind (Informer.after earlier).cache event) ∧
    let l : Listers := ⟨ns, .after ofRegistries, .after ofDeployments⟩
    (l.registry name =
      if ofRegistries.any (·.isRelist) then
        .ok (ofEvents ImageRegistry.kind ofRegistries ⟨name, none⟩)
      else .error (.notSynced ImageRegistry.kind.name)) ∧
    l.deployment name =
      if ofDeployments.any (·.isRelist) then
        .ok (ofEvents Deployment.kind ofDeployments
          ⟨name, if deploymentsNamespaced then some ns else none⟩)
      else .error (.notSynced Deployment.kind.name) := by
  refine ⟨fun earlier _ _ => ofEvents_eq kind earlier, ?_, ?_, ?_⟩
  · rintro earlier event later rfl
    have hearlier : ∀ e ∈ earlier, Cache.Uniform namespaced e.objects :=
      fun e he => hevents e (List.mem_append_left _ he)
    have hevent := hevents event (List.mem_append_right _ List.mem_cons_self)
    exact (Informer.after_distinct earlier).delta kind (Informer.after_uniform hearlier) hevent
  · refine Informer.lookUp_after ImageRegistry.kind ofRegistries ?_
    rw [Cache.find?, ObjectKey.withoutNamespace, Option.or_self]
  · have huniform := Informer.after_uniform hdeployments
    refine Informer.lookUp_after Deployment.kind ofDeployments ?_
    cases deploymentsNamespaced with
    | true => exact huniform.find?_eq rfl
    | false => exact huniform.find?_outside _

/-- The deployment of the registry, in some namespace or in none. -/
def listedDeployment (ns : Option String) : Entry Deployment where
  key := ⟨"image-registry", ns⟩
  object := { metadata := { name := some "image-registry", ns } }
  named := rfl

/-- The secret `name` at some version. -/
def listedSecret (name version : String) : Entry Metadata where
  key := ⟨name, some "image-registry"⟩
  object := { name := some name, ns := some "image-registry", resourceVersion := some version }
  named := rfl

/-- The secrets `a` and `b` are listed, and then `a` and `c` instead. -/
def relisting : List (WatchEvent (Entry Metadata)) :=
  [.restarted [listedSecret "a" "1", listedSecret "b" "1"],
    .restarted [listedSecret "a" "2", listedSecret "c" "1", listedSecret "c" "2"]]

theorem follows_cache_relisted :
    let secrets : Kind := ⟨"Secret", "", "v1", "secrets"⟩
    let deployments := [WatchEvent.restarted [listedDeployment (some "image-registry")]]
    (∀ event ∈ relisting, Cache.Uniform true event.objects) ∧
    (∀ event ∈ deployments, Cache.Uniform true event.objects) ∧
    ofEvents secrets relisting = ofCache (Informer.after relisting).cache ∧
    Cache.Delta secrets (Informer.after (relisting.take 1)).cache
      (.restarted [listedSecret "a" "2", listedSecret "c" "1", listedSecret "c" "2"]) ∧
    (Listers.mk "image-registry" {} (.after deployments)).deployment "image-registry" =
      .ok (some (listedDeployment (some "image-registry")).object) := by
  intro secrets deployments
  have hsecrets : ∀ event ∈ relisting, Cache.Uniform true event.objects := by
    simp [relisting, Cache.Uniform, WatchEvent.objects, listedSecret]
  have hdeployments : ∀ event ∈ deployments, Cache.Uniform true event.objects := by
    simp [deployments, Cache.Uniform, WatchEvent.objects, listedDeployment]
  obtain ⟨hmirror, hdelta, _, hfound⟩ := follows_cache secrets relisting hsecrets
    "image-registry" [] deployments hdeployments "image-registry"
  exact ⟨hsecrets, hdeployments, hmirror relisting [] (List.append_nil _).symm,
    hdelta (relisting.take 1) _ [] rfl, hfound.trans rfl⟩

/-- A deployment outside all namespaces is found in that of the operator, where no mirror shows
it. -/
theorem deployment_found_outside :
    let listed := [WatchEvent.restarted [listedDeployment none]]
    (∀ event ∈ listed, Cache.Uniform false event.objects) ∧
    (Informer.after listed).synced = true ∧
    (Listers.mk "image-registry" {} (.after listed)).deployment "image-registry" =
      .ok (some (listedDeployment none).object) ∧
    ofEvents Deployment.kind listed ⟨"image-registry", some "image-registry"⟩ = none ∧
    (Listers.mk "image-registry" {} (.after listed)).deployment "image-registry" ≠
      .ok (ofEvents Deployment.kind listed ⟨"image-registry", some "image-registry"⟩) := by
  intro listed
  have hfound : (Listers.mk "image-registry" {} (.after listed)).deployment "image-registry" =
      .ok (some (listedDeployment none).object) := rfl
  have hmirror : ofEvents Deployment.kind listed ⟨"image-registry", some "image-registry"⟩ = none :=
    rfl
  refine ⟨?_, rfl, hfound, hmirror, ?_⟩
  · simp [listed, Cache.Uniform, WatchEvent.objects, listedDeployment]
  · rw [hfound, hmirror]
    exact fun h => nomatch h

end Mirror
end RegistryOperator
