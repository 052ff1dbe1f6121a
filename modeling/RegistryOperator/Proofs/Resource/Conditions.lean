import RegistryOperator.Resource.Condition

/-! What is found among conditions after one of them was set. The first condition of the type says
then what it was set to, those of other types are untouched, and setting a condition to what it says
already changes nothing, whatever the clock shows. -/

namespace RegistryOperator.Condition

/-- What a condition says, apart from since when. -/
structure Tells (c : Condition) (status : ConditionStatus) (reason message : String) : Prop where
  status_eq : c.status = status
  reason_eq : c.reason = some reason
  message_eq : c.message = some message

variable {c : Condition} {cs : List Condition} {type other reason message : String}
  {status : ConditionStatus} (now : Timestamp)

theorem update_tells (c : Condition) (status : ConditionStatus) (reason message : String) :
    (c.update now status reason message).Tells status reason message :=
  ⟨rfl, rfl, rfl⟩

/-- The time of a condition moves only if its status does. -/
theorem update_of_tells (h : c.Tells status reason message) :
    c.update now status reason message = c := by
  obtain ⟨rfl, hreason, hmessage⟩ := h
  rw [update, if_pos rfl, ← hreason, ← hmessage]

theorem find_type (h : find type cs = some c) : c.type = type := by
  simpa using List.find?_some h

/-- What is found of the type that was set. -/
theorem find_set (type : String) (status : ConditionStatus) (reason message : String)
    (cs : List Condition) :
    find type (set now type status reason message cs) = some
      (match find type cs with
        | none => ⟨type, status, some reason, some message, some now⟩
        | some c => c.update now status reason message) := by
  induction cs with
  | nil => simp [find, set]
  | cons c cs ih =>
      by_cases htype : c.type = type
      · rw [set, if_pos htype]
        simp [find, update, htype]
      · rw [set, if_neg htype]
        simpa [find, htype] using ih

theorem find_set_self (cs : List Condition) :
    ∃ c, find type (set now type status reason message cs) = some c ∧
      c.Tells status reason message := by
  rw [find_set]
  cases find type cs with
  | none => exact ⟨_, rfl, rfl, rfl, rfl⟩
  | some c => exact ⟨_, rfl, c.update_tells now status reason message⟩

theorem find_set_of_ne (hne : type ≠ other) (cs : List Condition) :
    find other (set now type status reason message cs) = find other cs := by
  induction cs with
  | nil => simp [find, set, hne]
  | cons c cs ih =>
      by_cases htype : c.type = type
      · rw [set, if_pos htype]
        simp [find, update, htype, hne]
      · rw [set, if_neg htype]
        by_cases hother : c.type = other
        · simp [find, hother]
        · simpa [find, hother] using ih

theorem set_of_tells (hfind : find type cs = some c) (htells : c.Tells status reason message) :
    set now type status reason message cs = cs := by
  induction cs with
  | nil => cases hfind
  | cons first cs ih =>
      by_cases htype : first.type = type
      · have heq : first = c := by simpa [find, htype] using hfind
        rw [set, if_pos htype, heq, update_of_tells now htells]
      · rw [set, if_neg htype, ih (by simpa [find, htype] using hfind)]

/-- Conditions stay where they are, and the one of a new type comes last. -/
theorem types_set (type : String) (status : ConditionStatus) (reason message : String)
    (cs : List Condition) :
    (set now type status reason message cs).map (·.type) =
      if type ∈ cs.map (·.type) then cs.map (·.type) else cs.map (·.type) ++ [type] := by
  induction cs with
  | nil => simp [set]
  | cons c cs ih =>
      by_cases htype : c.type = type
      · rw [set, if_pos htype]
        simp [update, htype]
      · rw [set, if_neg htype, List.map_cons, ih]
        by_cases hmem : type ∈ cs.map (·.type)
        · have hold : type ∈ (c :: cs).map (·.type) := List.mem_cons_of_mem _ hmem
          rw [if_pos hmem, if_pos hold, List.map_cons]
        · have hnew : type ∉ (c :: cs).map (·.type) := by
            rw [List.map_cons, List.mem_cons, not_or]
            exact ⟨Ne.symm htype, hmem⟩
          rw [if_neg hmem, if_neg hnew, List.map_cons, List.cons_append]

end RegistryOperator.Condition
