import Mathlib.Data.List.Perm.Basic
import Mathlib.Tactic.SplitIfs
import RegistryOperator.Config.Basic

/-! What variables say about the settings. Each setting is settled by itself: reading succeeds if
every setting is given once at most, with a text that can be read, and then finds what is given.
So neither the order of the variables nor what else there is in the environment makes a difference,
although both decide which fault is reported. -/

namespace RegistryOperator

namespace Setting

/-- What a setting is. -/
def Value : Setting → Type
  | .namespaceName => String
  | .resyncPeriodSecs => ℕ
  | .baseDelayMs => ℕ
  | .maxDelaySecs => ℕ
  | .qps => Float
  | .burst => ℕ
  | .registryImage => String
  | .bootstrapStorage => String

/-- Reads the text that is given for a setting. -/
def read : (setting : Setting) → String → Except Config.NumberFault setting.Value
  | .namespaceName => .ok
  | .resyncPeriodSecs => Config.readWhole (2 ^ (64 : ℕ))
  | .baseDelayMs => Config.readWhole (2 ^ (64 : ℕ))
  | .maxDelaySecs => Config.readWhole (2 ^ (64 : ℕ))
  | .qps => Config.readDecimal
  | .burst => Config.readWhole (2 ^ (32 : ℕ))
  | .registryImage => .ok
  | .bootstrapStorage => .ok

theorem mem_all (setting : Setting) : setting ∈ all := by
  cases setting <;> decide

theorem ofName?_eq_none_iff {s : String} :
    ofName? s = none ↔ ∀ setting : Setting, s ≠ setting.name := by
  rw [ofName?, List.find?_eq_none]
  constructor
  · intro h setting heq
    exact h setting (mem_all setting) (decide_eq_true heq.symm)
  · intro h setting _ heq
    exact h setting (of_decide_eq_true heq).symm

end Setting

namespace Config

/-! ### Names -/

/-- Taking `start` away as often as `cs` begins with it leaves `rest`. -/
def Trimmed (cs rest : List Char) : Prop :=
  ¬start <+: rest ∧ ∃ n, cs = (List.replicate n start).flatten ++ rest

/-- A name says nothing about the settings: it is not one of the operator's, or what is left of it
names no setting. -/
inductive Clutter (variableName : String) : Prop
  | foreign (hforeign : ¬start <+: variableName.toList)
  | unknown {rest : List Char} (hrest : Trimmed variableName.toList rest)
      (hunknown : ∀ setting : Setting, lower (String.ofList rest) ≠ setting.name)

variable {cs rest rest' : List Char}

theorem Trimmed.start_append (h : Trimmed cs rest) : Trimmed (start ++ cs) rest := by
  obtain ⟨hend, n, rfl⟩ := h
  refine ⟨hend, n + 1, ?_⟩
  rw [List.replicate_succ, List.flatten_cons, List.append_assoc]

theorem trimmed_trimStart {n : ℕ} (h : cs.length ≤ n) : Trimmed cs (trimStart n cs) := by
  induction n generalizing cs with
  | zero =>
      obtain rfl : cs = [] := List.length_eq_zero_iff.mp (Nat.le_zero.mp h)
      exact ⟨by decide, 0, rfl⟩
  | succ n ih =>
      rw [trimStart]
      split_ifs with hstart
      · obtain ⟨later, rfl⟩ := List.isPrefixOf_iff_prefix.mp hstart
        have hlength : later.length ≤ n := by
          have hpos : 0 < start.length := by decide
          rw [List.length_append] at h
          omega
        rw [List.drop_left]
        exact (ih hlength).start_append
      · exact ⟨fun hend => hstart (List.isPrefixOf_iff_prefix.mpr hend), 0, rfl⟩

theorem Trimmed.unique (h : Trimmed cs rest) (h' : Trimmed cs rest') : rest = rest' := by
  obtain ⟨hend, n, rfl⟩ := h
  obtain ⟨hend', n', heq⟩ := h'
  induction n generalizing n' with
  | zero =>
      cases n' with
      | zero => exact heq
      | succ n' =>
          rw [List.replicate_succ, List.flatten_cons, List.append_assoc] at heq
          exact absurd ⟨_, heq.symm⟩ hend
  | succ n ih =>
      rw [List.replicate_succ, List.flatten_cons, List.append_assoc] at heq
      cases n' with
      | zero => exact absurd ⟨_, heq⟩ hend'
      | succ n' =>
          rw [List.replicate_succ, List.flatten_cons, List.append_assoc] at heq
          exact ih n' (List.append_cancel_left heq)

/-- The variables that are read over are those whose names say nothing about the settings. -/
theorem settingOf?_eq_none_iff {variableName : String} :
    settingOf? variableName = none ↔ Clutter variableName := by
  let cs := variableName.toList
  let rest := trimStart cs.length cs
  have hrest : Trimmed cs rest := trimmed_trimStart (Nat.le_refl _)
  by_cases hstart : start <+: cs
  · have hown : ownName? variableName = some (String.ofList rest) :=
      if_pos (List.isPrefixOf_iff_prefix.mpr hstart)
    have hsetting : settingOf? variableName = none ↔
        Setting.ofName? (lower (String.ofList rest)) = none := by
      cases hname : Setting.ofName? (lower (String.ofList rest)) <;> simp [settingOf?, hown, hname]
    rw [hsetting, Setting.ofName?_eq_none_iff]
    constructor
    · exact .unknown hrest
    · rintro (hforeign | ⟨hrest', hunknown⟩)
      · exact absurd hstart hforeign
      · rwa [hrest.unique hrest']
  · have hown : ownName? variableName = none :=
      if_neg fun h => hstart (List.isPrefixOf_iff_prefix.mp h)
    exact ⟨fun _ => .foreign hstart, fun _ => by simp [settingOf?, hown]⟩

/-! ### What is found -/

namespace Found

variable {f g : Found} {setting other : Setting} {x : setting.Value}

/-- What was found of a setting. -/
def value? (f : Found) : (setting : Setting) → Option setting.Value
  | .namespaceName => f.ns
  | .resyncPeriodSecs => f.resyncPeriodSecs
  | .baseDelayMs => f.baseDelayMs
  | .maxDelaySecs => f.maxDelaySecs
  | .qps => f.qps
  | .burst => f.burst
  | .registryImage => f.registryImage
  | .bootstrapStorage => f.bootstrapStorage

/-- What was found, and beyond that a setting. -/
def put (f : Found) : (setting : Setting) → setting.Value → Found
  | .namespaceName, x => { f with ns := some x }
  | .resyncPeriodSecs, x => { f with resyncPeriodSecs := some x }
  | .baseDelayMs, x => { f with baseDelayMs := some x }
  | .maxDelaySecs, x => { f with maxDelaySecs := some x }
  | .qps, x => { f with qps := some x }
  | .burst, x => { f with burst := some x }
  | .registryImage, x => { f with registryImage := some x }
  | .bootstrapStorage, x => { f with bootstrapStorage := some x }

theorem has_eq (f : Found) (setting : Setting) : f.has setting = (f.value? setting).isSome := by
  cases setting <;> rfl

theorem add_eq (f : Found) (setting : Setting) (value : String) :
    f.add setting value = (setting.read value).map (f.put setting) := by
  cases setting <;> rfl

@[simp] theorem value?_put_self (f : Found) (x : setting.Value) :
    (f.put setting x).value? setting = some x := by
  cases setting <;> rfl

theorem value?_put_of_ne (f : Found) (x : setting.Value) (h : other ≠ setting) :
    (f.put setting x).value? other = f.value? other := by
  cases setting <;> cases other <;> first | rfl | exact absurd rfl h

theorem eq_of_value? (h : ∀ setting, f.value? setting = g.value? setting) : f = g := by
  cases f
  cases g
  congr
  · exact h .namespaceName
  · exact h .resyncPeriodSecs
  · exact h .baseDelayMs
  · exact h .maxDelaySecs
  · exact h .qps
  · exact h .burst
  · exact h .registryImage
  · exact h .bootstrapStorage

end Found

/-! ### Reading -/

/-- The texts that are given for a setting. -/
def textsFor (setting : Setting) (vars : List (String × String)) : List String :=
  (vars.filter fun v => (settingOf? v.1).map (·.1) = some setting).map (·.2)

/-- What there is of a setting before and after texts were given for it: nothing is given and all
stays as it was, or there was nothing and it is what the only text says. -/
inductive Settles (setting : Setting) :
    Option setting.Value → Option setting.Value → List String → Prop
  | kept (found : Option setting.Value) : Settles setting found found []
  | given {text : String} {x : setting.Value} (hread : setting.read text = .ok x) :
    Settles setting none (some x) [text]

variable {f g : Found} {setting other : Setting} {before after : Option setting.Value}
  {vars vars' : List (String × String)} {variableName own text : String} {texts texts' : List String}

theorem Settles.perm (h : Settles setting before after texts) (hperm : texts.Perm texts') :
    Settles setting before after texts' := by
  cases h with
  | kept =>
      rw [hperm.nil_eq.symm]
      exact .kept before
  | given hread =>
      rw [List.perm_singleton.mp hperm.symm]
      exact .given hread

theorem settles_nil_iff : Settles setting before after [] ↔ before = after := by
  constructor
  · rintro ⟨⟩
    rfl
  · rintro rfl
    exact .kept before

/-- Once a setting is given, nothing else may be given for it. -/
theorem settles_cons_iff : Settles setting before after (text :: texts) ↔
    before = none ∧ ∃ x, setting.read text = .ok x ∧ Settles setting (some x) after texts := by
  constructor
  · rintro (_ | hread)
    exact ⟨rfl, _, hread, .kept _⟩
  · rintro ⟨rfl, x, hread, hrest⟩
    cases hrest
    exact .given hread

theorem textsFor_cons_of_none (h : settingOf? variableName = none) :
    textsFor setting ((variableName, text) :: vars) = textsFor setting vars := by
  simp [textsFor, h]

theorem textsFor_cons_self (h : settingOf? variableName = some (setting, own)) :
    textsFor setting ((variableName, text) :: vars) = text :: textsFor setting vars := by
  simp [textsFor, h]

theorem textsFor_cons_of_ne (h : settingOf? variableName = some (setting, own))
    (hne : other ≠ setting) :
    textsFor other ((variableName, text) :: vars) = textsFor other vars := by
  simp [textsFor, h, hne.symm]

theorem textsFor_clutter (h : ∀ v ∈ vars, Clutter v.1) : textsFor setting vars = [] := by
  induction vars with
  | nil => rfl
  | cons v vars ih =>
      have hv : settingOf? v.1 = none := settingOf?_eq_none_iff.mpr (h v List.mem_cons_self)
      rw [textsFor_cons_of_none hv]
      exact ih fun v' hv' => h v' (List.mem_cons_of_mem v hv')

/-- What is given for a setting does not depend on clutter, and on the order only in its own
order. -/
theorem textsFor_perm {clutter : List (String × String)} (hclutter : ∀ v ∈ clutter, Clutter v.1)
    (hvars : vars'.Perm (vars ++ clutter)) (setting : Setting) :
    (textsFor setting vars').Perm (textsFor setting vars) := by
  have hperm : (textsFor setting vars').Perm (textsFor setting (vars ++ clutter)) :=
    (hvars.filter _).map _
  have happend : textsFor setting (vars ++ clutter) =
      textsFor setting vars ++ textsFor setting clutter := by
    rw [textsFor, List.filter_append, List.map_append]
    rfl
  rwa [happend, textsFor_clutter hclutter, List.append_nil] at hperm

/-- A variable for a setting is read if there was none for it, and its text can be read. -/
theorem read_cons_eq_ok_iff (h : settingOf? variableName = some (setting, own)) :
    read f ((variableName, text) :: vars) = .ok g ↔
      f.value? setting = none ∧
        ∃ x, setting.read text = .ok x ∧ read (f.put setting x) vars = .ok g := by
  rw [read, h]
  dsimp only
  rw [f.has_eq, f.add_eq]
  cases hvalue : f.value? setting with
  | some y => simp
  | none =>
      cases hread : setting.read text with
      | error fault => simp [Except.map]
      | ok x => simp [Except.map]

/-- **Reading settles each setting by itself.** It succeeds if every setting can be settled, and
what it finds is how they are settled. -/
theorem read_eq_ok_iff : read f vars = .ok g ↔
    ∀ setting, Settles setting (f.value? setting) (g.value? setting) (textsFor setting vars) := by
  induction vars generalizing f with
  | nil =>
      rw [read, Except.ok.injEq]
      constructor
      · rintro rfl setting
        exact .kept _
      · intro h
        exact Found.eq_of_value? fun setting => settles_nil_iff.mp (h setting)
  | cons v vars ih =>
      obtain ⟨variableName, text⟩ := v
      cases hsetting : settingOf? variableName with
      | none =>
          rw [read, hsetting]
          simpa only [textsFor_cons_of_none hsetting] using ih
      | some found =>
          obtain ⟨setting, own⟩ := found
          rw [read_cons_eq_ok_iff hsetting]
          constructor
          · rintro ⟨hfresh, x, hread, hrest⟩ other
            have hother := ih.mp hrest other
            by_cases heq : other = setting
            · subst heq
              rw [Found.value?_put_self] at hother
              rw [textsFor_cons_self hsetting]
              exact settles_cons_iff.mpr ⟨hfresh, x, hread, hother⟩
            · rwa [Found.value?_put_of_ne f x heq, ← textsFor_cons_of_ne hsetting heq] at hother
          · intro h
            have hself := h setting
            rw [textsFor_cons_self hsetting] at hself
            obtain ⟨hfresh, x, hread, hrest⟩ := settles_cons_iff.mp hself
            refine ⟨hfresh, x, hread, ih.mpr fun other => ?_⟩
            by_cases heq : other = setting
            · subst heq
              rwa [Found.value?_put_self]
            · rw [Found.value?_put_of_ne f x heq, ← textsFor_cons_of_ne hsetting heq]
              exact h other

theorem read_congr {clutter : List (String × String)} (hclutter : ∀ v ∈ clutter, Clutter v.1)
    (hvars : vars'.Perm (vars ++ clutter)) : read f vars' = .ok g ↔ read f vars = .ok g := by
  rw [read_eq_ok_iff, read_eq_ok_iff]
  refine forall_congr' fun setting => ?_
  have htexts := textsFor_perm hclutter hvars setting
  exact ⟨fun h => h.perm htexts, fun h => h.perm htexts.symm⟩

end Config

namespace OperatorConfig

variable {vars vars' clutter : List (String × String)}

theorem validated_eq_ok_iff {c c' : OperatorConfig} :
    c.validated = .ok c' ↔ c = c' ∧ 0 < c.resyncPeriodSecs ∧ 0 < c.maxDelaySecs := by
  rw [validated]
  split_ifs with hresync hmax
  · simp [hresync]
  · simp [hmax]
  · simp [Nat.pos_of_ne_zero hresync, Nat.pos_of_ne_zero hmax]

theorem ofVariables_eq_ok_iff {c : OperatorConfig} : ofVariables vars = .ok c ↔
    ∃ found, Config.read {} vars = .ok found ∧ found.complete = c ∧
      0 < found.complete.resyncPeriodSecs ∧ 0 < found.complete.maxDelaySecs := by
  rw [ofVariables]
  cases Config.read {} vars with
  | error e => simp
  | ok found => simp [validated_eq_ok_iff]

/-- **The settings do not depend on the order or the clutter of the environment.** Let variables be
put into any order and others be added whose names say nothing about the settings: then the settings
are accepted if and only if they were, and they are the same. No period of accepted settings is
zero. -/
theorem settings_ignore_order_and_clutter (hclutter : ∀ v ∈ clutter, Config.Clutter v.1)
    (hvars : vars'.Perm (vars ++ clutter)) :
    (∀ c, ofVariables vars' = .ok c ↔ ofVariables vars = .ok c) ∧
    ∀ c, ofVariables vars = .ok c → 0 < c.resyncPeriodSecs ∧ 0 < c.maxDelaySecs := by
  constructor
  · intro c
    simp only [ofVariables_eq_ok_iff, Config.read_congr hclutter hvars]
  · intro c hc
    obtain ⟨_, _, rfl, hperiods⟩ := ofVariables_eq_ok_iff.mp hc
    exact hperiods

/-- A name may start twice as the operator's do, and one that does may still name no setting. -/
theorem settings_ignore_order_and_clutter_startedTwice :
    (∀ v ∈ [("PATH", "/bin"), ("REGOP_REGOP_COLOR", "red"), ("REGOP_REGOP_COLOR", "blue")],
      Config.Clutter v.1) ∧
    [("REGOP_REGOP_COLOR", "red"), ("REGOP_namespace", "apps"), ("PATH", "/bin"),
      ("REGOP_REGOP_Burst", "+7"), ("REGOP_REGOP_COLOR", "blue")].Perm
        ([("REGOP_REGOP_Burst", "+7"), ("REGOP_namespace", "apps")] ++
          [("PATH", "/bin"), ("REGOP_REGOP_COLOR", "red"), ("REGOP_REGOP_COLOR", "blue")]) ∧
    ofVariables [("REGOP_REGOP_COLOR", "red"), ("REGOP_namespace", "apps"), ("PATH", "/bin"),
      ("REGOP_REGOP_Burst", "+7"), ("REGOP_REGOP_COLOR", "blue")] =
        .ok { ns := "apps", burst := 7 } := by
  have hclutter : ∀ v ∈ [("PATH", "/bin"), ("REGOP_REGOP_COLOR", "red"),
      ("REGOP_REGOP_COLOR", "blue")], Config.Clutter v.1 := by
    simp only [← Config.settingOf?_eq_none_iff]
    decide
  have hperm : [("REGOP_REGOP_COLOR", "red"), ("REGOP_namespace", "apps"), ("PATH", "/bin"),
      ("REGOP_REGOP_Burst", "+7"), ("REGOP_REGOP_COLOR", "blue")].Perm
        ([("REGOP_REGOP_Burst", "+7"), ("REGOP_namespace", "apps")] ++
          [("PATH", "/bin"), ("REGOP_REGOP_COLOR", "red"), ("REGOP_REGOP_COLOR", "blue")]) := by
    decide
  refine ⟨hclutter, hperm, ?_⟩
  exact ((settings_ignore_order_and_clutter hclutter hperm).1 _).mpr rfl

end OperatorConfig
end RegistryOperator
