import RegistryOperator.Proofs.Operator.UnderWay

/-! When an operator runs passes. Its worker appears when every source has been listed. After the
shutdown no pass starts, and the one that is under way comes to its end before the operator does. -/

namespace RegistryOperator

/-- The caches tell that there is no registry only if they have been listed. -/
theorem Listers.none_of_registry {l : Listers} {name : String} (h : l.registry name = .ok none) :
    l.registries.synced = true ∧ l.registries.cache.find? ⟨name, none⟩ = none := by
  unfold Listers.registry Informer.lookUp at h
  split_ifs at h with hsynced
  exact ⟨hsynced, Option.map_eq_none_iff.mp (Except.ok.inj h)⟩

namespace Operator

variable {R : Type} {o o' : Operator R} {a : OperatorAct}
  {rest : PassProgram (Except PassError Unit)}

/-! ### After the shutdown -/

theorem Step.shuttingDown (hstep : o.Step a o') (hdown : o.queue.backlog.shuttingDown = true) :
    o'.queue.backlog.shuttingDown = true := by
  cases hstep with
  | aside hkept => exact hkept hdown
  | giveUp | quit | closeDown => rfl
  | start _ hopen =>
      rw [hopen] at hdown
      cases hdown
  | settle _ _ _ hkept => exact hkept hdown
  | _ => exact hdown

theorem take_worker (hdown : o.queue.backlog.shuttingDown = true)
    (hworker : o.worker = .idle ∨ o.worker = .finished ∨ o.worker = .crashed) :
    o.take.worker = .finished ∨ o.take.worker = .crashed := by
  unfold take
  rcases hworker with hworker | hworker | hworker
  · have htake : o.queue.backlog.take = (.shutDown, o.queue.backlog) := if_pos hdown
    rw [hworker, WorkerState.take, RateLimitedQueue.take, htake]
    exact Or.inl rfl
  · rw [hworker]
    exact Or.inl rfl
  · rw [hworker]
    exact Or.inr rfl

theorem close_phase (hclosing : o.phase = .closing)
    (hworker : o.worker = .finished ∨ o.worker = .crashed) :
    o.close.phase = .ended (.ok ()) := by
  unfold close
  rcases hworker with hworker | hworker
  · rw [hclosing, hworker]
  · rw [hclosing, hworker]

section

variable [Quantity R]

theorem shuttingDown_after (hdown : o.queue.backlog.shuttingDown = true)
    (acts : List OperatorAct) : (o.after acts).queue.backlog.shuttingDown = true :=
  o.after_keeps (fun o' a hdown => (o'.step a).shuttingDown hdown) hdown acts

/-- What is under way after the shutdown was so before. -/
theorem leads_of_shuttingDown (hdown : o.queue.backlog.shuttingDown = true)
    {later : List OperatorAct} (hbusy : (o.after later).worker = .busy rest) :
    ∃ rest' heard, o.worker = .busy rest' ∧ rest'.Leads heard rest := by
  induction later using List.reverseRecOn generalizing rest with
  | nil => exact ⟨rest, [], hbusy, .start⟩
  | append_singleton later a ih =>
      rw [after_concat] at hbusy
      rcases (step _ a).busy_cases hbusy with
        hbefore | ⟨_, _, hopen, _⟩ | ⟨q, next, others, _, hasked, rfl⟩
      · exact ih hbefore
      · rw [shuttingDown_after hdown later] at hopen
        cases hopen
      · obtain ⟨rest', heard, hbefore, hleads⟩ := ih hasked
        exact ⟨rest', _, hbefore, hleads.hear _⟩

theorem finish_worker (hpresent : o.worker ≠ .absent)
    (hheard : ∀ rest, o.worker = .busy rest → ∃ result, rest = .done result) (now : Duration) :
    (o.finish now).worker = .idle ∨ (o.finish now).worker = .finished ∨
      (o.finish now).worker = .crashed := by
  unfold finish
  cases hworker : o.worker with
  | absent => exact absurd hworker hpresent
  | idle => exact Or.inl rfl
  | busy rest =>
      obtain ⟨result, rfl⟩ := hheard rest hworker
      rw [WorkerState.finish]
      generalize Worker.settle o.queue now result = settled
      obtain ⟨wait, queue⟩ := settled
      cases wait with
      | none => exact Or.inr (Or.inr rfl)
      | some _ => exact Or.inl rfl
  | finished => exact Or.inr (Or.inl rfl)
  | crashed => exact Or.inr (Or.inr rfl)

/-- A closing operator whose pass waits for no answer comes to its end. -/
theorem Sound.ends (h : o.Sound) (hclosing : o.phase = .closing)
    (hheard : ∀ rest, o.worker = .busy rest → ∃ result, rest = .done result) (now : Duration) :
    (o.after [.finish now, .take, .close]).phase = .ended (.ok ()) := by
  have hfinish := finish_worker (h.present (Or.inr hclosing)) hheard now
  have hdown : (o.finish now).queue.backlog.shuttingDown = true :=
    (o.finish_step now).shuttingDown (h.closed hclosing)
  have htake := take_worker hdown hfinish
  exact close_phase hclosing htake

/-- **A closing operator ends once its pass has had its answers**, whatever they are. -/
theorem Sound.returns (h : o.Sound) (hclosing : o.phase = .closing)
    (others : (q : PassQuestion) → q.Answer) (now : Duration) :
    ∃ n, (o.after (List.replicate n (.goOn others) ++ [.finish now, .take, .close])).phase =
      .ended (.ok ()) := by
  by_cases hbusy : ∃ rest, o.worker = .busy rest
  · obtain ⟨rest, hbusy⟩ := hbusy
    -- On what is left of the pass: each answer takes it one question further.
    induction rest generalizing o with
    | done result =>
        refine ⟨0, ?_⟩
        rw [List.replicate_zero, List.nil_append]
        refine h.ends hclosing (fun rest hrest => ⟨result, ?_⟩) now
        rw [hbusy] at hrest
        exact (WorkerState.busy.inj hrest).symm
    | ask q next ih =>
        have hheard : (o.perform (.goOn others)).worker = .busy (next (o.answer others q)) :=
          congrArg (WorkerState.goOn (o.answer others)) hbusy
        obtain ⟨n, hn⟩ :=
          ih (o.answer others q) (o := o.perform (.goOn others)) (h.perform _) hclosing hheard
        refine ⟨n + 1, ?_⟩
        rw [List.replicate_succ, List.cons_append, after_cons]
        exact hn
  · refine ⟨0, ?_⟩
    rw [List.replicate_zero, List.nil_append]
    exact h.ends hclosing (fun rest hrest => absurd ⟨rest, hrest⟩ hbusy) now

end

/-! ### No pass at all -/

theorem Step.absent (hstep : o.Step a o') (habsent : o'.worker = .absent) : o.worker = .absent := by
  cases hstep with
  | begin | start | leave | hear => cases habsent
  | settle _ _ hworker _ =>
      rcases hworker with rfl | rfl
      · cases habsent
      · cases habsent
  | _ => exact habsent

/-- There is no worker and there will be none: the operator has ended, or a source cannot be listed
any more. -/
def Barred (o : Operator R) : Prop :=
  o.worker = .absent ∧
    (o.isEnded = true ∨ ∃ s, (o.tasks s).ended = true ∧ o.isSynced s = false)

theorem Barred.step (h : o.Barred) (hstep : o.Step a o')
    (hstuck : ∀ s, (o.tasks s).ended = true → o.isSynced s = false →
      (o'.tasks s).ended = true ∧ o'.isSynced s = false) : o'.Barred := by
  obtain ⟨habsent, hended⟩ := h
  have hafter := hended.imp_right fun ⟨s, htask, hsynced⟩ =>
    (⟨s, hstuck s htask hsynced⟩ : ∃ s, (o'.tasks s).ended = true ∧ o'.isSynced s = false)
  cases hstep with
  | aside => exact ⟨habsent, hafter⟩
  | begin hwaiting hall =>
      rcases hended with hended | ⟨s, _, hsynced⟩
      · rw [isEnded, hwaiting] at hended
        cases hended
      · rw [hall s] at hsynced
        cases hsynced
  | giveUp | quit => exact ⟨habsent, Or.inl rfl⟩
  | closeDown hworking =>
      refine ⟨habsent, hafter.imp_left fun hended => ?_⟩
      rw [isEnded, hworking] at hended
      cases hended
  | start hworker | leave hworker | hear hworker | settle hworker =>
      rw [hworker] at habsent
      cases habsent
  | close => exact ⟨habsent, Or.inl rfl⟩

section

variable [Quantity R]

/-- A source whose task has ended is not listed any more. -/
theorem Barred.perform (h : o.Barred) (a : OperatorAct) : (o.perform a).Barred := by
  refine h.step (Operator.step o a) fun s hended hsynced => ⟨o.ended_perform hended a, ?_⟩
  rw [Bool.eq_false_iff, Ne, isSynced_perform, hsynced]
  rintro (hnow | hlists)
  · cases hnow
  · cases hlists with
    | receive _ hrunning _ =>
        rw [hended] at hrunning
        cases hrunning

theorem Barred.after (h : o.Barred) (acts : List OperatorAct) : (o.after acts).Barred :=
  o.after_keeps (fun _ a h => h.perform a) h acts

/-- At no moment of some acts a pass is under way. -/
def Passless (o : Operator R) (acts : List OperatorAct) : Prop :=
  ∀ m, m <+: acts → ¬ (o.after m).worker.IsBusy

theorem passless_of_absent {acts : List OperatorAct} (habsent : (o.after acts).worker = .absent) :
    o.Passless acts := by
  induction acts using List.reverseRecOn with
  | nil =>
      intro m hm
      rw [List.prefix_nil.mp hm, habsent]
      exact id
  | append_singleton acts a ih =>
      intro m hm
      rcases List.prefix_concat_iff.mp hm with rfl | hm
      · rw [habsent]
        exact id
      · rw [after_concat] at habsent
        exact ih ((step _ a).absent habsent) m hm

theorem Barred.passless {acts : List OperatorAct} (h : (o.after acts).Barred)
    (later : List OperatorAct) : o.Passless (acts ++ later) := by
  refine passless_of_absent ?_
  rw [after_append]
  exact (h.after later).1

end

/-! ### From the start on -/

/-- An operator that was only started. -/
structure Fresh (o : Operator R) : Prop where
  absent : o.worker = .absent
  inactive : o.phase ≠ .working ∧ o.phase ≠ .closing
  unsynced : ∀ s, o.isSynced s = false

theorem Fresh.sound (h : o.Fresh) : o.Sound := .of_absent h.absent h.inactive

variable [Quantity R]

/-- Some acts brought a source the list of all its objects. -/
def Listed (o : Operator R) (acts : List OperatorAct) (s : Source) : Prop :=
  ∃ earlier a later, acts = earlier ++ a :: later ∧ (o.after earlier).Lists s a

theorem not_listed_nil (o : Operator R) (s : Source) : ¬ o.Listed [] s := by
  rintro ⟨earlier, b, later, heq, _⟩
  exact List.append_ne_nil_of_right_ne_nil earlier (List.cons_ne_nil b later) heq.symm

theorem listed_concat {acts : List OperatorAct} {s : Source} :
    o.Listed (acts ++ [a]) s ↔ o.Listed acts s ∨ (o.after acts).Lists s a := by
  constructor
  · rintro ⟨earlier, b, later, heq, hb⟩
    rcases List.eq_nil_or_concat later with rfl | ⟨later, c, rfl⟩
    · obtain ⟨rfl, hlast⟩ := List.append_inj' heq rfl
      cases hlast
      exact Or.inr hb
    · rw [List.concat_eq_append, ← List.cons_append, ← List.append_assoc] at heq
      obtain ⟨rfl, _⟩ := List.append_inj' heq rfl
      exact Or.inl ⟨earlier, b, later, rfl, hb⟩
  · rintro (⟨earlier, b, later, rfl, hb⟩ | hlists)
    · exact ⟨earlier, b, later ++ [a], by simp, hb⟩
    · exact ⟨acts, a, [], rfl, hlists⟩

theorem isSynced_after (acts : List OperatorAct) (s : Source) :
    (o.after acts).isSynced s = true ↔ o.isSynced s = true ∨ o.Listed acts s := by
  induction acts using List.reverseRecOn with
  | nil => exact (or_iff_left (o.not_listed_nil s)).symm
  | append_singleton acts a ih => rw [after_concat, isSynced_perform, ih, listed_concat, or_assoc]

theorem start_fresh (dependents : Dependents) (bootstrapSpec : Except ConfigError RegistrySpec)
    (limiter : Limiter R Trigger) : (start dependents bootstrapSpec limiter).Fresh := by
  unfold start
  cases bootstrapSpec with
  | error e => exact ⟨rfl, ⟨nofun, nofun⟩, fun _ => rfl⟩
  | ok spec =>
      dsimp only
      split
      · exact ⟨rfl, ⟨nofun, nofun⟩, fun _ => rfl⟩
      · exact ⟨rfl, ⟨nofun, nofun⟩, fun _ => rfl⟩

/-- When an operator runs passes, seen after some acts. -/
structure Gated (o : Operator R) (acts : List OperatorAct) : Prop where
  /-- Once every source has been listed and a trigger is ready, a pass can start. -/
  opened : (o.after acts).phase = .waiting → (∀ s, o.Listed acts s) →
    ∀ x queue, (o.after acts).queue.take = (.item x, queue) →
      ((o.after acts).after [.noticeLists, .take]).worker = .busy (Pass.pass o.bootstrapSpec)
  /-- While a pass is under way, every source has been listed. -/
  listed : (o.after acts).worker.IsBusy → ∀ s, o.Listed acts s
  /-- No pass fails because a cache denied an answer. -/
  answered : ∀ e, (o.after acts).worker = .busy (.done (.error e)) → e.isLookup = false
  /-- A pass that creates the registry started when every source had been listed, and since then
  there was a moment at which the cache had no registry. -/
  missing : ∀ r next, (o.after acts).worker = .busy (.ask (.write .create r) next) →
    ∃ before m later heard, acts = before ++ .take :: (m ++ later) ∧
      o.UnderWay before (m ++ later) heard (.ask (.write .create r) next) ∧
      (∀ s, o.Listed before s) ∧
      let registries := (o.after (before ++ .take :: m)).listers.registries
      registries.synced = true ∧ registries.cache.find? ⟨ImageRegistry.clusterName, none⟩ = none
  /-- If the shutdown comes while the operator waits for lists, no pass ever starts. -/
  quit : (o.after acts).phase = .waiting → ∀ later, o.Passless (acts ++ .shutDown :: later)
  /-- If a task ends before its source was listed, no pass ever starts. -/
  stopped : ∀ s, ((o.after acts).tasks s).ended = true → ¬ o.Listed acts s →
    ∀ later, o.Passless (acts ++ later)
  /-- A pass that is under way after the shutdown is what is left of one that was so before. -/
  closed : (o.after acts).queue.backlog.shuttingDown = true →
    ∀ later rest, ((o.after acts).after later).worker = .busy rest →
      ∃ rest' heard, (o.after acts).worker = .busy rest' ∧ rest'.Leads heard rest
  /-- A pass that is under way comes to its end before the operator does. -/
  served : ∀ rest later, (o.after acts).worker = .busy rest →
    ((o.after acts).after later).isEnded = true →
    ∃ m now later' heard result, later = m ++ .finish now :: later' ∧
      rest.Leads heard (.done result) ∧ ((o.after acts).after m).worker = .busy (.done result)
  /-- With answers for its pass, whatever they are, a closing operator comes to its end. -/
  returns : (o.after acts).phase = .closing →
    ∀ others now, ∃ n, ((o.after acts).after
      (List.replicate n (.goOn others) ++ [.finish now, .take, .close])).phase = .ended (.ok ())

theorem Fresh.listed_iff (h : o.Fresh) {acts : List OperatorAct} {s : Source} :
    o.Listed acts s ↔ (o.after acts).isSynced s = true := by
  rw [isSynced_after, h.unsynced s, or_iff_right Bool.false_ne_true]

theorem Fresh.listed (h : o.Fresh) {acts : List OperatorAct}
    (hpresent : (o.after acts).worker ≠ .absent) (s : Source) : o.Listed acts s :=
  h.listed_iff.mpr ((h.sound.after acts).synced hpresent s)

theorem Fresh.underWay (h : o.Fresh) {acts : List OperatorAct}
    (hbusy : (o.after acts).worker = .busy rest) :
    ∃ before since heard, acts = before ++ .take :: since ∧ o.UnderWay before since heard rest :=
  underWay_of_busy (h.absent ▸ id) hbusy

theorem Fresh.answered (h : o.Fresh) {acts : List OperatorAct} {e : PassError}
    (hbusy : (o.after acts).worker = .busy (.done (.error e))) : e.isLookup = false := by
  obtain ⟨before, since, heard, rfl, hpass⟩ := h.underWay hbusy
  have hexcused : Pass.Excused _ _ := hpass.leads.obeys (Pass.pass_looks o.bootstrapSpec)
  rw [hpass.after_denial h.sound] at hexcused
  by_contra hlookup
  cases hexcused e rfl (by simpa using hlookup)

theorem Fresh.missing (h : o.Fresh) {acts : List OperatorAct} {r : ImageRegistry}
    {next : Except StoreError ImageRegistry → PassProgram (Except PassError Unit)}
    (hbusy : (o.after acts).worker = .busy (.ask (.write .create r) next)) :
    ∃ before m later heard, acts = before ++ .take :: (m ++ later) ∧
      o.UnderWay before (m ++ later) heard (.ask (.write .create r) next) ∧
      (∀ s, o.Listed before s) ∧
      let registries := (o.after (before ++ .take :: m)).listers.registries
      registries.synced = true ∧
        registries.cache.find? ⟨ImageRegistry.clusterName, none⟩ = none := by
  obtain ⟨before, since, heard, rfl, hpass⟩ := h.underWay hbusy
  have htreads := Pass.pass_treads o.bootstrapSpec
  -- A pass may create the registry only on the footing that there is none.
  have habsent : Footing.protocol.after .unread heard = .absent := (hpass.leads.obeys htreads).1
  have hmem := Footing.mem_of_absent (hpass.leads.kept htreads) habsent
  obtain ⟨m, others, ⟨later, rfl⟩, hanswer⟩ := hpass.answered _ hmem
  have hlisted : ∀ s, o.Listed before s := h.listed (hpass.idle ▸ nofun)
  refine ⟨before, m, later, heard, rfl, hpass, hlisted, ?_⟩
  have hnone : (o.after (before ++ .take :: m)).listers.registry ImageRegistry.clusterName =
      .ok none := hanswer.symm
  exact Listers.none_of_registry hnone

/-- The worker appears when every source has been listed, and takes the trigger that is ready. -/
theorem after_noticeLists (hwaiting : o.phase = .waiting) (hsynced : ∀ s, o.isSynced s = true)
    {x : Trigger} {queue : WorkQueue R Trigger} (htake : o.queue.take = (.item x, queue)) :
    (o.after [.noticeLists, .take]).worker = .busy (Pass.pass o.bootstrapSpec) := by
  have hall : Source.all.all o.isSynced = true := List.all_eq_true.mpr fun s _ => hsynced s
  have hresolved : o.isResolved = true :=
    List.all_eq_true.mpr fun s _ => by rw [hsynced s, Bool.true_or]
  have hnotice : o.noticeLists = { o with phase := .working, worker := .idle } := by
    rw [noticeLists, hwaiting]
    dsimp only
    rw [if_pos hresolved, if_pos hall]
  change (o.noticeLists.take).worker = _
  rw [hnotice, take, WorkerState.take, htake]

theorem Fresh.gated (h : o.Fresh) (acts : List OperatorAct) : o.Gated acts where
  opened hwaiting hlisted _ _ htake :=
    (after_noticeLists hwaiting (fun s => h.listed_iff.mp (hlisted s)) htake).trans
      (congrArg _ (congrArg _ (bootstrapSpec_after acts)))
  listed hbusy := h.listed fun habsent => by rw [habsent] at hbusy; exact hbusy
  answered _ hbusy := h.answered hbusy
  missing _ _ := h.missing
  quit hwaiting later := by
    have habsent := (h.sound.after acts).absent_of_waiting hwaiting
    have hbarred : (o.after (acts ++ [.shutDown])).Barred := by
      rw [after_concat, perform, shutDown, hwaiting]
      exact ⟨habsent, Or.inl rfl⟩
    simpa using hbarred.passless later
  stopped s hended hunlisted later := by
    have habsent : (o.after acts).worker = .absent := by
      by_contra hpresent
      exact hunlisted (h.listed hpresent s)
    have hunsynced : (o.after acts).isSynced s = false := by
      rw [h.listed_iff] at hunlisted
      simpa using hunlisted
    exact Barred.passless ⟨habsent, Or.inr ⟨s, hended, hunsynced⟩⟩ later
  closed hdown _ _ := leads_of_shuttingDown hdown
  served rest later hbusy hended := by
    have hsound := h.sound.after acts
    refine (hsound.pass_goes_on hbusy later).resolve_left ?_
    rintro ⟨heard, rest', _, hworker⟩
    refine (hsound.after later).rested hended ?_
    rw [hworker]
    trivial
  returns hclosing := (h.sound.after acts).returns hclosing

/-- **Passes are gated.** Whatever happens to an operator from its start on, in whatever order: no
pass starts before every source has been listed. So no pass fails because a cache denied an answer,
and none creates the registry unless its cache had been listed and had none. If the shutdown comes
while the operator still waits, or a task ends before its source was listed, no pass ever starts.
After the shutdown no pass starts any more; the one that is under way comes to its end before the
operator does, and with its answers the operator does come to its end. -/
theorem passes_are_gated (dependents : Dependents)
    (bootstrapSpec : Except ConfigError RegistrySpec) (limiter : Limiter R Trigger)
    (acts : List OperatorAct) : (start dependents bootstrapSpec limiter).Gated acts :=
  (start_fresh dependents bootstrapSpec limiter).gated acts

/-- What the server lists of a kind without objects. -/
def noObjects : WatchSignal :=
  .listed (.ok ⟨200, .ok "\x7b\"metadata\":\x7b\"resourceVersion\":\"1\"\x7d,\"items\":[]\x7d"⟩)

-- The trigger is ready from the start on, and still the pass waits for the last of the sources.
example :
    let o : Operator Float := start ⟨"apps", "registry"⟩ (.ok {}) (.longest [])
    let lists := Source.all.map (.receive · 0 noObjects)
    (o.after (lists ++ [.noticeLists, .take])).worker.IsBusy ∧
      ¬ (o.after (lists.tail ++ [.noticeLists, .take])).worker.IsBusy := by
  constructor <;> cbv

end Operator
end RegistryOperator
