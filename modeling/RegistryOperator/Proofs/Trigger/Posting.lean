import RegistryOperator.Cache.Informer
import RegistryOperator.Proofs.Cache.Lookup
import RegistryOperator.Proofs.Queue.Sharing

/-! Which events of a watch lead to a trigger: at least those after which a cache shows another
version of an object that may matter, or shows it no longer, or for the first time. To a queue an
event is at most one addition of the trigger. -/

namespace RegistryOperator
namespace Funnel

variable {α : Type} [Resource α] {f : Funnel} {c : Cache α} {key : ObjectKey} {e old : Entry α}

/-- Whether an object may matter is a question of its key. -/
theorem isRelevant_congr (f : Funnel) (hkey : e.key = old.key) :
    f.isRelevant e.metadata = f.isRelevant old.metadata := by
  simp only [isRelevant, Entry.metadata_shownName, Entry.metadata_ns, hkey]

/-- The version of an entry that may matter. -/
def version? (f : Funnel) (found : Option (Entry α)) : Option (Option String) :=
  (found.filter (f.isRelevant ·.metadata)).map (·.version)

/-- The versions of the objects of a cache that may matter, by their keys. -/
def versions (f : Funnel) (c : Cache α) (key : ObjectKey) : Option (Option String) :=
  f.version? (c.get? key)

theorem version?_none (f : Funnel) : f.version? (none : Option (Entry α)) = none := rfl

theorem version?_of_relevant (hrel : f.isRelevant e.metadata = true) :
    f.version? (some e) = some e.version := by
  simp [version?, hrel]

theorem version?_of_irrelevant (hrel : f.isRelevant e.metadata = false) :
    f.version? (some e) = none := by
  simp [version?, hrel]

theorem posts_of_subject (f : Funnel) {n : Notification α} {happening : Happening}
    (hsubject : n.subject? = some (e.object, happening)) : f.posts n = f.isRelevant e.metadata := by
  rw [posts, cause?, hsubject, Option.bind_some]
  change Option.isSome (if f.isRelevant e.metadata = true then _ else _) = _
  split_ifs with hrel
  · rw [hrel, Option.isSome_some]
  · simpa using hrel

theorem posts_updated (f : Funnel) (hversion : old.version ≠ e.version) :
    f.posts (.updated old.object e.object) = f.isRelevant e.metadata :=
  posts_of_subject f (if_neg hversion)

/-- If nothing, or something of the same key, is replaced by an entry, and this can be seen, then the
presence of the entry is not passed over. -/
theorem posts_presence (hfind : c.find? e.key = c.get? e.key)
    (hchanged : f.version? (some e) ≠ f.versions c e.key) : f.posts (c.presence e) = true := by
  rw [Cache.presence, hfind]
  rw [versions] at hchanged
  cases hold : c.get? e.key with
  | none =>
      rw [hold, version?_none] at hchanged
      dsimp only
      rw [posts_of_subject f rfl]
      by_contra hrel
      exact hchanged (version?_of_irrelevant (by simpa using hrel))
  | some old =>
      have hcongr := isRelevant_congr f (Cache.get?_key hold)
      rw [hold] at hchanged
      cases hrel : f.isRelevant e.metadata with
      | false =>
          rw [version?_of_irrelevant hrel, version?_of_irrelevant (hcongr.trans hrel)] at hchanged
          exact absurd rfl hchanged
      | true =>
          rw [version?_of_relevant hrel, version?_of_relevant (hcongr.trans hrel)] at hchanged
          dsimp only
          rw [posts_updated f fun hsame => hchanged (congrArg some hsame.symm), hrel]

/-- What is seen to disappear may matter. -/
theorem relevant_of_lost (hlost : none ≠ f.versions c key) :
    ∃ old, c.get? key = some old ∧ f.isRelevant old.metadata = true := by
  rw [versions] at hlost
  cases hold : c.get? key with
  | none =>
      rw [hold] at hlost
      exact absurd rfl hlost
  | some old =>
      refine ⟨old, rfl, ?_⟩
      by_contra hrel
      rw [hold, version?_of_irrelevant (by simpa using hrel)] at hlost
      exact hlost rfl

/-- **No visible change is passed over.** -/
theorem posts_of_changed {namespaced : Bool} {event : WatchEvent (Entry α)} (kind : Kind)
    (hc : Cache.Uniform namespaced c.entries) (hevent : Cache.Uniform namespaced event.objects)
    (hchanged : f.versions (c.apply event) key ≠ f.versions c key) :
    ∃ n ∈ c.notifications kind event, f.posts n = true := by
  cases event with
  | applied e =>
      have hkey : e.key = key := by
        by_contra hne
        rw [versions, Cache.apply, Cache.get?_insert, if_neg hne] at hchanged
        exact hchanged rfl
      subst hkey
      rw [versions, Cache.apply, Cache.get?_insert, if_pos rfl] at hchanged
      have hfind := hc.find?_eq (hevent e List.mem_cons_self)
      exact ⟨_, List.mem_cons_self, posts_presence hfind hchanged⟩
  | deleted e =>
      have hkey : e.key = key := by
        by_contra hne
        rw [versions, Cache.apply, Cache.get?_erase, if_neg hne] at hchanged
        exact hchanged rfl
      rw [versions, Cache.apply, Cache.get?_erase, if_pos hkey, version?_none] at hchanged
      obtain ⟨old, hold, hrel⟩ := relevant_of_lost hchanged
      refine ⟨_, List.mem_cons_self, ?_⟩
      rw [posts_of_subject f rfl, isRelevant_congr f (hkey.trans (Cache.get?_key hold).symm), hrel]
  | restarted es =>
      rw [versions, Cache.apply, Cache.get?_ofList] at hchanged
      cases hlisted : es.reverse.find? (·.key = key) with
      | some e =>
          have hmem : e ∈ es := List.mem_reverse.mp (List.mem_of_find?_eq_some hlisted)
          have hkey : e.key = key := by simpa using List.find?_some hlisted
          subst hkey
          rw [hlisted] at hchanged
          have hfind := hc.find?_eq (hevent e hmem)
          exact ⟨_, List.mem_append_left _ (List.mem_map_of_mem hmem), posts_presence hfind hchanged⟩
      | none =>
          rw [hlisted, version?_none] at hchanged
          obtain ⟨old, hold, hrel⟩ := relevant_of_lost hchanged
          have hmissing : old ∈ c.missingFrom es := by
            rw [Cache.missingFrom, List.mem_filter]
            refine ⟨Cache.get?_mem hold, ?_⟩
            rw [Cache.get?_key hold]
            simpa using hlisted
          refine ⟨_, List.mem_append_right _ (List.mem_map_of_mem hmissing), ?_⟩
          rw [posts_of_subject f rfl, hrel]

theorem posts_replay (f : Funnel) (c : Cache α) : ∀ n ∈ c.replay, f.posts n = false := by
  intro n hn
  obtain ⟨e, _, rfl⟩ := List.mem_map.mp hn
  simp [posts, cause?, Notification.subject?]

variable {L : Type}

theorem handleAll_of_none {ns : List (Notification α)} (q : RateLimitedQueue L Trigger)
    (hnone : ∀ n ∈ ns, f.posts n = false) : f.handleAll q ns = q := by
  induction ns with
  | nil => rfl
  | cons n ns ih =>
      have hn := hnone n List.mem_cons_self
      have hrest := ih fun n' hn' => hnone n' (List.mem_cons_of_mem n hn')
      rw [handleAll, List.foldl_cons, handle, hn]
      simpa [handleAll] using hrest

/-- Some notifications that lead to triggers do what one of them does. -/
theorem handleAll_of_some {ns : List (Notification α)} (q : RateLimitedQueue L Trigger)
    (hsome : ∃ n ∈ ns, f.posts n = true) : f.handleAll q ns = q.add .changes := by
  induction ns generalizing q with
  | nil => simp at hsome
  | cons n ns ih =>
      rw [handleAll, List.foldl_cons, handle]
      by_cases hrest : ∃ n' ∈ ns, f.posts n' = true
      · split_ifs
        · exact (ih (q.add .changes) hrest).trans (by rw [RateLimitedQueue.add_add])
        · exact ih q hrest
      · have hnone : ∀ n' ∈ ns, f.posts n' = false := by simpa using hrest
        have hn : f.posts n = true := by
          rcases hsome with ⟨n', hn', hposts⟩
          rcases List.mem_cons.mp hn' with rfl | hmem
          · exact hposts
          · exact absurd ⟨n', hmem, hposts⟩ hrest
        rw [if_pos hn]
        exact handleAll_of_none _ hnone

end Funnel

namespace Informer

variable {α L : Type} [Resource α]

/-- An event adds the trigger, if any of what it is told as leads to one. -/
theorem notify_cases (i : Informer α) (kind : Kind) (f : Funnel) (q : RateLimitedQueue L Trigger)
    (event : WatchEvent (Entry α)) :
    (∃ n ∈ i.cache.notifications kind event, f.posts n = true) ∧
      i.notify kind f q event = q.add .changes ∨
    (∀ n ∈ i.cache.notifications kind event, f.posts n = false) ∧ i.notify kind f q event = q := by
  by_cases hsome : ∃ n ∈ i.cache.notifications kind event, f.posts n = true
  · exact Or.inl ⟨hsome, Funnel.handleAll_of_some q hsome⟩
  · have hnone : ∀ n ∈ i.cache.notifications kind event, f.posts n = false := by simpa using hsome
    exact Or.inr ⟨hnone, Funnel.handleAll_of_none q hnone⟩

theorem resync_eq (i : Informer α) (f : Funnel) (q : RateLimitedQueue L Trigger) :
    i.resync f q = q :=
  Funnel.handleAll_of_none q (Funnel.posts_replay f i.cache)

end Informer
end RegistryOperator
