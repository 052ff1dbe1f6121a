import Mathlib.Data.List.DropRight
import Mathlib.Data.List.Nodup
import RegistryOperator.Proofs.Resource.Conditions

/-! What a list of conditions tells of its history. Each condition says what was observed last of
its type, and its time is that of the first observation in the last run of those with this status;
only where the run goes back to a condition that was there before the first of them is it the time
of that condition. Observations of other types make no difference, and conditions stay where they
are. -/

namespace RegistryOperator.Condition

/-- What is observed of a type at some moment. -/
structure Observation where
  time : Timestamp
  type : String
  status : ConditionStatus
  reason : String
  message : String
deriving DecidableEq

/-- The conditions after some observations. -/
def after (cs : List Condition) (os : List Observation) : List Condition :=
  os.foldl (fun cs o => set o.time o.type o.status o.reason o.message cs) cs

/-- The observations of a type. -/
def about (type : String) (os : List Observation) : List Observation :=
  os.filter (·.type = type)

/-- Since when a type has a status, going by its observations and the condition before them: since
the first observation of the last run with this status, unless the run begins with that condition. -/
def since (initial : Option Condition) (os : List Observation) (status : ConditionStatus) :
    Option Timestamp :=
  let run := os.rtakeWhile (·.status = status)
  if run = os ∧ initial.map (·.status) = some status then initial.bind (·.lastTransitionTime)
  else run.head?.map (·.time)

/-- The types that were observed and had no condition before, in the order of their first
observations. -/
def newcomers (cs : List Condition) (os : List Observation) : List String :=
  (os.map (·.type)).eraseDups.filter (· ∉ cs.map (·.type))

variable {cs : List Condition} {os : List Observation} {o last : Observation} {type : String}

theorem after_concat (cs : List Condition) (os : List Observation) (o : Observation) :
    after cs (os ++ [o]) = set o.time o.type o.status o.reason o.message (after cs os) := by
  rw [after, List.foldl_concat]
  rfl

theorem about_concat_self (os : List Observation) (o : Observation) :
    about o.type (os ++ [o]) = about o.type os ++ [o] := by
  simp [about]

theorem about_concat_of_ne (h : o.type ≠ type) : about type (os ++ [o]) = about type os := by
  simp [about, h]

theorem about_eq_nil_iff : about type os = [] ↔ type ∉ os.map (·.type) := by
  simp [about, List.filter_eq_nil_iff]

/-! ### The time of the last change -/

theorem since_flip {initial : Option Condition} {status : ConditionStatus}
    (hlast : os.getLast? = some last) (hflip : last.status ≠ status) (hstatus : o.status = status) :
    since initial (os ++ [o]) status = some o.time := by
  obtain ⟨earlier, rfl⟩ := List.getLast?_eq_some_iff.mp hlast
  have hrun : ((earlier ++ [last]) ++ [o]).rtakeWhile (·.status = status) = [o] := by
    rw [List.rtakeWhile_concat_pos _ _ _ (by simpa using hstatus),
      List.rtakeWhile_concat_neg _ _ _ (by simpa using hflip), List.nil_append]
  rw [since, hrun, if_neg]
  · rfl
  · rintro ⟨hall, -⟩
    have hlength := congrArg List.length hall
    simp at hlength

theorem since_stay {initial : Option Condition} {status : ConditionStatus}
    (hlast : os.getLast? = some last) (hstay : last.status = status) (hstatus : o.status = status) :
    since initial (os ++ [o]) status = since initial os status := by
  obtain ⟨earlier, rfl⟩ := List.getLast?_eq_some_iff.mp hlast
  have hrun : ((earlier ++ [last]) ++ [o]).rtakeWhile (·.status = status) =
      (earlier ++ [last]).rtakeWhile (·.status = status) ++ [o] :=
    List.rtakeWhile_concat_pos _ _ _ (by simpa using hstatus)
  have hlastRun : (earlier ++ [last]).rtakeWhile (·.status = status) =
      earlier.rtakeWhile (·.status = status) ++ [last] :=
    List.rtakeWhile_concat_pos _ _ _ (by simpa using hstay)
  simp only [since, hrun, List.append_left_inj]
  rw [hlastRun]
  simp

theorem since_first {initial : Option Condition} {status : ConditionStatus}
    (hstatus : o.status = status) :
    since initial [o] status =
      if initial.map (·.status) = some status then initial.bind (·.lastTransitionTime)
      else some o.time := by
  have hrun : [o].rtakeWhile (·.status = status) = [o] :=
    List.rtakeWhile_concat_pos _ [] _ (by simpa using hstatus)
  simp [since, hrun]

/-! ### What is found -/

theorem find_after_of_about_nil (h : about type os = []) :
    find type (after cs os) = find type cs := by
  induction os using List.reverseRecOn with
  | nil => rfl
  | append_singleton os o ih =>
      rw [about_eq_nil_iff, List.map_append, List.mem_append, not_or] at h
      have hne : o.type ≠ type := fun heq => h.2 (by simp [heq])
      rw [after_concat, find_set_of_ne _ hne, ih (about_eq_nil_iff.mpr h.1)]

/-- The condition of a type that was observed. -/
theorem find_after (hlast : (about type os).getLast? = some last) :
    find type (after cs os) = some ⟨type, last.status, some last.reason, some last.message,
      since (find type cs) (about type os) last.status⟩ := by
  induction os using List.reverseRecOn generalizing last with
  | nil => cases hlast
  | append_singleton os o ih =>
      rw [after_concat]
      by_cases htype : o.type = type
      · subst htype
        rw [about_concat_self] at hlast ⊢
        have ho : o = last := by simpa using hlast
        subst ho
        rw [find_set]
        cases hbefore : (about o.type os).getLast? with
        | none =>
            -- nothing was observed of this type before, so the condition is the one from the start
            have hnil := List.getLast?_eq_none_iff.mp hbefore
            rw [find_after_of_about_nil hnil, hnil, List.nil_append, since_first rfl]
            cases hinitial : find o.type cs with
            | none => simp
            | some c =>
                have hc : c.type = o.type := find_type hinitial
                simp [update, hc]
        | some before =>
            rw [ih hbefore]
            by_cases hstatus : before.status = o.status
            · simp [update, since_stay hbefore hstatus rfl, hstatus]
            · simp [update, since_flip hbefore hstatus rfl, hstatus]
      · rw [about_concat_of_ne htype] at hlast ⊢
        rw [find_set_of_ne _ htype, ih hlast]

/-! ### Where it stands -/

theorem mem_newcomers : type ∈ newcomers cs os ↔ type ∈ os.map (·.type) ∧ type ∉ cs.map (·.type) := by
  simp [newcomers, List.mem_eraseDups]

theorem eraseDups_concat (types : List String) (type : String) :
    (types ++ [type]).eraseDups =
      if type ∈ types then types.eraseDups else types.eraseDups ++ [type] := by
  rw [List.eraseDups_append]
  by_cases h : type ∈ types
  · simp [List.removeAll, h]
  · simp [List.removeAll, List.eraseDups_cons, h]

theorem newcomers_concat (cs : List Condition) (os : List Observation) (o : Observation) :
    newcomers cs (os ++ [o]) =
      if o.type ∈ cs.map (·.type) ++ newcomers cs os then newcomers cs os
      else newcomers cs os ++ [o.type] := by
  have hsplit : newcomers cs (os ++ [o]) =
      (if o.type ∈ os.map (·.type) then (os.map (·.type)).eraseDups
        else (os.map (·.type)).eraseDups ++ [o.type]).filter (· ∉ cs.map (·.type)) := by
    rw [newcomers, List.map_append]
    exact congrArg _ (eraseDups_concat _ _)
  rw [hsplit]
  by_cases hseen : o.type ∈ os.map (·.type)
  · have hmem : o.type ∈ cs.map (·.type) ++ newcomers cs os := by
      rw [List.mem_append, mem_newcomers]
      tauto
    rw [if_pos hseen, if_pos hmem]
    rfl
  · rw [if_neg hseen, List.filter_append]
    by_cases hold : o.type ∈ cs.map (·.type)
    · rw [if_pos (List.mem_append_left _ hold), List.filter_singleton, decide_not,
        decide_eq_true hold]
      exact List.append_nil _
    · have hnew : o.type ∉ cs.map (·.type) ++ newcomers cs os := by
        rw [List.mem_append, mem_newcomers]
        tauto
      rw [if_neg hnew, List.filter_singleton, decide_not, decide_eq_false hold]
      rfl

theorem types_after (cs : List Condition) (os : List Observation) :
    (after cs os).map (·.type) = cs.map (·.type) ++ newcomers cs os := by
  induction os using List.reverseRecOn with
  | nil => simp [after, newcomers]
  | append_singleton os o ih =>
      rw [after_concat, types_set, ih, newcomers_concat]
      split_ifs
      · rfl
      · rw [List.append_assoc]

theorem nodup_eraseDups (types : List String) : types.eraseDups.Nodup := by
  induction types using List.reverseRecOn with
  | nil => simp
  | append_singleton types type ih =>
      rw [eraseDups_concat]
      split_ifs with h
      · exact ih
      · rw [← List.concat_eq_append]
        exact ih.concat fun hmem => h (List.mem_eraseDups.mp hmem)

theorem nodup_after (h : (cs.map (·.type)).Nodup) : ((after cs os).map (·.type)).Nodup := by
  rw [types_after]
  refine h.append ((nodup_eraseDups _).filter _) fun type hold hnew => ?_
  exact (mem_newcomers.mp hnew).2 hold

theorem getElem?_set_of_ne {now : Timestamp} {status : ConditionStatus} {reason message : String}
    {i : Nat} {c : Condition} (hc : cs[i]? = some c) (hne : c.type ≠ type) :
    (set now type status reason message cs)[i]? = some c := by
  induction cs generalizing i with
  | nil => cases hc
  | cons first cs ih =>
      cases i with
      | zero =>
          have hfirst : first = c := by simpa using hc
          rw [set, if_neg (hfirst ▸ hne)]
          exact hc
      | succ i =>
          rw [List.getElem?_cons_succ] at hc
          rw [set]
          split_ifs
          · rwa [List.getElem?_cons_succ]
          · rw [List.getElem?_cons_succ]
            exact ih hc

theorem getElem?_after {i : Nat} {c : Condition} (hc : cs[i]? = some c)
    (hunseen : about c.type os = []) : (after cs os)[i]? = some c := by
  induction os using List.reverseRecOn with
  | nil => exact hc
  | append_singleton os o ih =>
      rw [about_eq_nil_iff, List.map_append, List.mem_append, not_or] at hunseen
      rw [after_concat]
      exact getElem?_set_of_ne (ih (about_eq_nil_iff.mpr hunseen.1)) fun heq =>
        hunseen.2 (by simp [heq])

/-- **Conditions remember exactly their last change.** After any observations, of whatever types in
whatever order, the condition of a type that was observed says what was observed last, since the
first observation of the last run with this status, or since when it said so at the start if the
run goes back to it. Other conditions are as they were. Types stay distinct, conditions stay where
they are, and new ones follow in the order in which their types were first observed. -/
theorem times_are_those_of_the_last_change (hdistinct : (cs.map (·.type)).Nodup)
    (os : List Observation) :
    (∀ type last, (about type os).getLast? = some last →
      find type (after cs os) = some ⟨type, last.status, some last.reason, some last.message,
        since (find type cs) (about type os) last.status⟩) ∧
    (∀ type, about type os = [] → find type (after cs os) = find type cs) ∧
    (∀ (i : Nat) c, cs[i]? = some c → about c.type os = [] → (after cs os)[i]? = some c) ∧
    (after cs os).map (·.type) = cs.map (·.type) ++ newcomers cs os ∧
    ((after cs os).map (·.type)).Nodup :=
  ⟨fun _ _ => find_after, fun _ => find_after_of_about_nil, fun _ _ => getElem?_after,
    types_after cs os, nodup_after hdistinct⟩

/-- A run of one status goes on when other types are observed in between, and it may go back to a
condition that has no time. -/
theorem times_are_those_of_the_last_change_interrupted :
    let cs : List Condition := [⟨"Degraded", .no, none, none, none⟩, ⟨"Paused", .yes, none, none, none⟩]
    let os : List Observation := [⟨⟨1, 0⟩, "Degraded", .no, "AsExpected", ""⟩,
      ⟨⟨2, 0⟩, "Available", .no, "Removed", ""⟩, ⟨⟨3, 0⟩, "Available", .yes, "Ready", "up"⟩,
      ⟨⟨4, 0⟩, "Degraded", .no, "AsExpected", ""⟩, ⟨⟨5, 0⟩, "Available", .yes, "Ready", "still"⟩]
    (cs.map (·.type)).Nodup ∧
    find "Degraded" (after cs os) = some ⟨"Degraded", .no, some "AsExpected", some "", none⟩ ∧
    find "Available" (after cs os) =
      some ⟨"Available", .yes, some "Ready", some "still", some ⟨3, 0⟩⟩ ∧
    (after cs os)[1]? = some ⟨"Paused", .yes, none, none, none⟩ ∧
    (after cs os).map (·.type) = ["Degraded", "Paused", "Available"] := by
  intro cs os
  have hdistinct : (cs.map (·.type)).Nodup := by decide
  obtain ⟨hlast, -, hsame, htypes, -⟩ := times_are_those_of_the_last_change hdistinct os
  exact ⟨hdistinct, hlast "Degraded" _ rfl, hlast "Available" _ rfl, hsame 1 _ rfl rfl, htypes⟩

end RegistryOperator.Condition
