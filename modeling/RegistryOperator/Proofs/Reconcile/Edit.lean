import RegistryOperator.Proofs.Json.Report
import RegistryOperator.Proofs.Reconcile.Course
import RegistryOperator.Proofs.Resource.Documents

/-! What a pass changes of a registry that lacks the operator's finalizer: it adds the finalizer, and
it sets the status, whose document changes only if the status does. The text that reports the changes
has one line that says so of the finalizer, and otherwise lines that are about the status. -/

namespace RegistryOperator

open Json (Revision Within changesTo)

variable {path name : String}

/-! ### The status -/

theorem Json.Revision.text_eq {was text : Option String}
    (h : (Revision.mk name (was.map .str) (text.map .str)).changes path = []) : was = text := by
  cases was with
  | none =>
      cases text with
      | none => rfl
      | some t => cases h
  | some s =>
      cases text with
      | none => cases h
      | some t => exact congrArg some (Json.changesTo_str h)

theorem ConditionStatus.name_injective : Function.Injective ConditionStatus.name := by
  intro a b h
  cases a <;> cases b <;> first | rfl | exact absurd h (by decide)

namespace Condition

variable {c c' : Condition} {cs cs' : List Condition} {type reason message : String}
  {status : ConditionStatus}

/-- Two conditions say the same, apart from since when. -/
structure Agrees (c c' : Condition) : Prop where
  type_eq : c.type = c'.type
  status_eq : c.status = c'.status
  reason_eq : c.reason = c'.reason
  message_eq : c.message = c'.message

theorem Agrees.tells (h : c.Agrees c') (htells : c'.Tells status reason message) :
    c.Tells status reason message :=
  ⟨h.status_eq.trans htells.status_eq, h.reason_eq.trans htells.reason_eq,
    h.message_eq.trans htells.message_eq⟩

theorem agrees_of_changesTo (h : changesTo c'.toJson path c.toJson = []) : c.Agrees c' := by
  have hfields := Json.changes_eq_nil_of_record
    [⟨"type", some (.str c.type), some (.str c'.type)⟩,
      ⟨"status", some (.str c.status.name), some (.str c'.status.name)⟩,
      ⟨"reason", c.reason.map .str, c'.reason.map .str⟩,
      ⟨"message", c.message.map .str, c'.message.map .str⟩,
      ⟨"lastTransitionTime", c.lastTransitionTime.map fun t : Timestamp => .str t.text,
        c'.lastTransitionTime.map fun t : Timestamp => .str t.text⟩] (by simp) h
  simp only [List.forall_mem_cons] at hfields
  obtain ⟨htype, hstatus, hreason, hmessage, -⟩ := hfields
  exact ⟨Json.changesTo_str htype, ConditionStatus.name_injective (Json.changesTo_str hstatus),
    Revision.text_eq hreason, Revision.text_eq hmessage⟩

theorem find_of_agrees (h : List.Forall₂ Agrees cs cs') (hfind : find type cs' = some c') :
    ∃ c, find type cs = some c ∧ c.Agrees c' := by
  induction h with
  | nil => cases hfind
  | @cons c first cs cs' hagrees _ ih =>
      by_cases htype : first.type = type
      · have hfirst : first = c' := by simpa [find, htype] using hfind
        have hc : c.type = type := hagrees.type_eq.trans htype
        exact ⟨c, by simp [find, hc], hfirst ▸ hagrees⟩
      · have hc : c.type ≠ type := fun heq => htype (hagrees.type_eq.symm.trans heq)
        obtain ⟨later, hlater, hsame⟩ := ih (by simpa [find, htype] using hfind)
        exact ⟨later, by simpa [find, hc] using hlater, hsame⟩

end Condition

theorem Verdict.Stands.of_agrees {v : Verdict} {cs cs' : List Condition} (h : v.Stands cs')
    (hagrees : List.Forall₂ Condition.Agrees cs cs') : v.Stands cs := by
  obtain ⟨c', hfind, htells⟩ := h
  obtain ⟨c, hfound, hc⟩ := Condition.find_of_agrees hagrees hfind
  exact ⟨c, hfound, hc.tells htells⟩

namespace RegistryStatus

variable {s s' : RegistryStatus}

/-- What a status has in common with one whose document is the same. -/
theorem agrees_of_changesTo (h : changesTo s'.toJson path s.toJson = []) :
    s.observedGeneration = s'.observedGeneration ∧ s.readyReplicas = s'.readyReplicas ∧
      List.Forall₂ Condition.Agrees s.conditions s'.conditions := by
  have hfields := Json.changes_eq_nil_of_record
    [⟨"observedGeneration", some (.int s.observedGeneration), some (.int s'.observedGeneration)⟩,
      ⟨"readyReplicas", some (.int s.readyReplicas), some (.int s'.readyReplicas)⟩,
      ⟨"conditions", some (.arr (s.conditions.map Condition.toJson)),
        some (.arr (s'.conditions.map Condition.toJson))⟩] (by simp) h
  simp only [List.forall_mem_cons] at hfields
  obtain ⟨hgeneration, hready, hconditions, -⟩ := hfields
  have hitems := Json.forall₂_of_changesTo_arr hconditions
  rw [List.forall₂_map_left_iff, List.forall₂_map_right_iff] at hitems
  exact ⟨Json.changesTo_int hgeneration, Json.changesTo_int hready,
    hitems.imp fun _ _ ⟨_, hchanges⟩ => Condition.agrees_of_changesTo hchanges⟩

variable (s) (readings : Readings) (spec : RegistrySpec) (generation : Int)
  (deployment : Option Deployment) (applied : Applied)

/-- The document of a status changes only if the status does. Conditions that agree with the old
ones but for their times were not set: where a verdict stands already, the time is kept. -/
theorem changesTo_observe_eq_nil_iff :
    changesTo (s.observe readings spec generation deployment applied).toJson path s.toJson = [] ↔
      s.observe readings spec generation deployment applied = s := by
  constructor
  · intro h
    obtain ⟨hgeneration, hready, hagrees⟩ := agrees_of_changesTo h
    have hstands : ∀ v ∈ Verdict.ofState spec deployment ++ Verdict.ofApplied applied,
        v.Stands s.conditions := fun v hv =>
      (s.observe_stands readings spec generation deployment applied v hv).of_agrees hagrees
    calc s.observe readings spec generation deployment applied
      _ = ⟨s.observedGeneration, s.readyReplicas, s.conditions⟩ := by
        rw [hgeneration, hready, ← Verdict.record_of_stands readings hstands]
        rfl
      _ = s := rfl
  · intro h
    rw [h]
    exact Json.changesTo_self s.toJson_tidy

end RegistryStatus

/-- All names in the document of a condition are words. -/
theorem Condition.names_word (c : Condition) : c.toJson.Names Word := by
  obtain ⟨type, status, reason, message, time⟩ := c
  cases reason <;> cases message <;> cases time <;>
    simp [toJson, Json.record, Json.Names, Json.NamesMembers, Word]

theorem RegistryStatus.names_word (s : RegistryStatus) : s.toJson.Names Word := by
  have hconditions : Json.NamesItems Word (s.conditions.map Condition.toJson) := by
    induction s.conditions with
    | nil => trivial
    | cons c cs ih => exact ⟨c.names_word, ih⟩
  simpa [toJson, Json.Names, Json.NamesMembers, Json.int, Word] using hconditions

/-! ### The registry -/

/-- A list of finalizers in a document. -/
def Json.texts (ss : List String) : Json := .arr (ss.map .str)

theorem Json.changesTo_texts (ss : List String) (s : String) :
    changesTo (texts (ss ++ [s])) path (texts ss) =
      [.add (path ++ "/" ++ toString ss.length) (.str s)] := by
  have hitems : Json.TidyItems (ss.map .str) := tidyItems_map fun _ _ => trivial
  rw [← List.perm_singleton, texts, List.map_append]
  refine (changesTo_append hitems).trans (.of_eq ?_)
  rw [List.length_map, String.append_assoc]
  rfl

theorem Metadata.changesTo_finalizers {m : Metadata} (htidy : m.Tidy)
    (finalizers : Option (List String)) :
    (changesTo ({ m with finalizers } : Metadata).toJson path m.toJson).Perm
      ((Revision.mk "finalizers" (m.finalizers.map Json.texts)
        (finalizers.map Json.texts)).changes path) :=
  Json.changesTo_set (i := 5) (by simp) (Metadata.toJson_tidy htidy) rfl

namespace ImageRegistry

variable {shown r : ImageRegistry}

/-- The change by which a registry gets the operator's finalizer: there is a list of finalizers now,
or a new item at the end of the list that there was. -/
def finalizerChange (shown : ImageRegistry) : Change :=
  match shown.metadata.finalizers with
  | none => .add "/metadata/finalizers" (.arr [.str finalizer])
  | some fs => .add ("/metadata/finalizers/" ++ toString fs.length) (.str finalizer)

/-- The line that says so, word for word. -/
def finalizerLine (shown : ImageRegistry) : String :=
  match shown.metadata.finalizers with
  | none => "add /metadata/finalizers: [\"registry.operator.dev/registry\"]"
  | some fs => "add /metadata/finalizers/" ++ toString fs.length ++
      ": \"registry.operator.dev/registry\""

theorem finalizerChange_line (shown : ImageRegistry) :
    shown.finalizerChange.line = shown.finalizerLine := by
  unfold finalizerChange finalizerLine
  cases shown.metadata.finalizers with
  | none => rfl
  | some fs =>
      have hvalue : ": " ++ (Json.str finalizer).text = ": \"registry.operator.dev/registry\"" := rfl
      have hplace : "add " ++ "/metadata/finalizers/" = "add /metadata/finalizers/" := rfl
      dsimp only [Change.line]
      rw [← hvalue, ← hplace]
      simp only [String.append_assoc]

theorem finalizerChange_plain (shown : ImageRegistry) : PlainPath shown.finalizerChange.path := by
  unfold finalizerChange
  cases shown.metadata.finalizers with
  | none => simp [PlainPath, Change.path]
  | some fs => exact .append (by simp [PlainPath]) (.nat fs.length)

theorem held_metadata (hfree : shown.metadata.hasFinalizer finalizer = false) :
    shown.held.metadata = { shown.metadata with
      finalizers := some (shown.metadata.finalizers.getD [] ++ [finalizer]) } :=
  if_neg (ne_true_of_eq_false hfree)

theorem changesTo_held (htidy : shown.metadata.Tidy)
    (hfree : shown.metadata.hasFinalizer finalizer = false) :
    changesTo shown.held.metadata.toJson "/metadata" shown.metadata.toJson =
      [shown.finalizerChange] := by
  have hlist : "/metadata" ++ (ChildKey.name "finalizers").step = "/metadata/finalizers" := rfl
  have hitem : "/metadata/finalizers" ++ "/" = "/metadata/finalizers/" := rfl
  rw [held_metadata hfree, ← List.perm_singleton, finalizerChange]
  refine (Metadata.changesTo_finalizers htidy _).trans ?_
  rw [← hitem, ← hlist]
  cases shown.metadata.finalizers with
  | none => exact .refl _
  | some fs => exact .of_eq (Json.changesTo_texts fs finalizer)

theorem finalizerLine_within (htidy : shown.metadata.Tidy)
    (hfree : shown.metadata.hasFinalizer finalizer = false) :
    Within "/metadata" (pathOf shown.finalizerLine) := by
  rw [← finalizerChange_line, Change.pathOf_line shown.finalizerChange_plain]
  exact Json.within_of_mem_changesTo (changesTo_held htidy hfree ▸ List.mem_cons_self)

theorem status_place : "" ++ (ChildKey.name "status").step = "/status" := rfl

/-- The changes of the status of a registry. -/
def statusChanges (shown r : ImageRegistry) : List Change :=
  (Revision.mk "status" (shown.status.map RegistryStatus.toJson)
    (r.status.map RegistryStatus.toJson)).changes ""

theorem within_status {c : Change} (hc : c ∈ statusChanges shown r) :
    Within "/status" c.path := by
  refine Revision.path_of_mem_changes (Json.descends_within (fun _ => True) "/status") ?_ ?_ ?_ hc
  · exact fun j _ => j.names_any
  · exact fun j _ => j.names_any
  · exact Or.inl status_place

theorem statusChange_plain {c : Change} (hc : c ∈ statusChanges shown r) : PlainPath c.path := by
  have hnames : ∀ status : Option RegistryStatus, ∀ j ∈ status.map RegistryStatus.toJson,
      j.Names Word := by
    simp [RegistryStatus.names_word]
  refine Revision.path_of_mem_changes Json.descends_plain ?_ ?_ ?_ hc
  · exact hnames shown.status
  · exact hnames r.status
  · exact status_place ▸ by simp [PlainPath]

theorem statusLine_within {line : String} (hline : line ∈ (statusChanges shown r).map Change.line) :
    Within "/status" (pathOf line) := by
  obtain ⟨c, hc, rfl⟩ := List.mem_map.mp hline
  rw [Change.pathOf_line (statusChange_plain hc)]
  exact within_status hc

/-- There are changes of the status where the status is not what it was. -/
theorem statusChanges_eq_nil_iff {readings : Readings} {generation : Int}
    {deployment : Option Deployment} {applied : Applied}
    (hstatus : r.status = some
      ((shown.status.getD {}).observe readings shown.spec generation deployment applied)) :
    statusChanges shown r = [] ↔ r.status = shown.status := by
  rw [statusChanges, hstatus]
  cases shown.status with
  | none => simp [Revision.changes]
  | some s =>
      rw [Option.some_inj]
      exact s.changesTo_observe_eq_nil_iff readings shown.spec generation deployment applied

section

variable (htidy : shown.metadata.Tidy) (hfree : shown.metadata.hasFinalizer finalizer = false)
  (hmetadata : r.metadata = shown.held.metadata) (hspec : r.spec = shown.spec)

include htidy hfree hmetadata hspec

theorem changes_perm :
    (Json.changes shown.toJson r.toJson).Perm (shown.finalizerChange :: statusChanges shown r) := by
  have hplace : "" ++ (ChildKey.name "metadata").step = "/metadata" := rfl
  refine (Json.changesTo_record
    [⟨"apiVersion", some (.str kind.apiVersion), some (.str kind.apiVersion)⟩,
      ⟨"kind", some (.str kind.name), some (.str kind.name)⟩,
      ⟨"metadata", some shown.metadata.toJson, some r.metadata.toJson⟩,
      ⟨"spec", some shown.spec.toJson, some r.spec.toJson⟩,
      ⟨"status", shown.status.map RegistryStatus.toJson, r.status.map RegistryStatus.toJson⟩]
    (by simp) "").trans (.of_eq ?_)
  have hkept : (Revision.mk "spec" (some shown.spec.toJson) (some r.spec.toJson)).changes "" = [] := by
    rw [hspec]
    exact Revision.changes_same fun j hj => Option.mem_some.mp hj ▸ shown.spec.toJson_tidy
  have hown : (Revision.mk "metadata" (some shown.metadata.toJson)
      (some r.metadata.toJson)).changes "" = [shown.finalizerChange] := by
    rw [← changesTo_held htidy hfree, ← hplace, ← hmetadata]
    rfl
  have hscalar (name s : String) :
      (Revision.mk name (some (.str s)) (some (.str s))).changes "" = [] :=
    Revision.changes_same fun j hj => Option.mem_some.mp hj ▸ trivial
  simp only [List.flatMap_cons, List.flatMap_nil, hscalar, hown, hkept, List.nil_append,
    List.append_nil]
  rfl

/-- The paths of all changes are plain. -/
theorem plain_of_mem_changes {c : Change} (hc : c ∈ Json.changes shown.toJson r.toJson) :
    PlainPath c.path := by
  rcases List.mem_cons.mp ((changes_perm htidy hfree hmetadata hspec).mem_iff.mp hc) with rfl | hc
  · exact shown.finalizerChange_plain
  · exact statusChange_plain hc

theorem changes_ne_nil : Json.changes shown.toJson r.toJson ≠ [] := by
  intro hnil
  have hchanges := changes_perm htidy hfree hmetadata hspec
  exact List.cons_ne_nil _ _ (List.nil_perm.mp (hnil ▸ hchanges))

/-- The report has a line for each change. -/
theorem lines_report :
    linesOf (Json.describeChanges shown.toJson r.toJson) =
      (Json.reported shown.toJson r.toJson).map Change.line := by
  refine Json.lines_describeChanges ?_ (changes_ne_nil htidy hfree hmetadata hspec)
  intro c hc
  exact (plain_of_mem_changes htidy hfree hmetadata hspec hc).oneLine

/-- The lines of the report are those of the finalizer and of the status, in some order. -/
theorem lines_perm :
    (linesOf (Json.describeChanges shown.toJson r.toJson)).Perm
      (shown.finalizerLine :: (statusChanges shown r).map Change.line) := by
  rw [lines_report htidy hfree hmetadata hspec, ← finalizerChange_line, ← List.map_cons]
  exact ((Json.reported_perm _ _).trans (changes_perm htidy hfree hmetadata hspec)).map _

theorem paths_sorted :
    ((linesOf (Json.describeChanges shown.toJson r.toJson)).map pathOf).Pairwise (· ≤ ·) := by
  have hplain : ∀ c ∈ Json.changes shown.toJson r.toJson, PlainPath c.path := fun c hc =>
    plain_of_mem_changes htidy hfree hmetadata hspec hc
  have hchanged := changes_ne_nil htidy hfree hmetadata hspec
  rw [Json.paths_describeChanges hplain hchanged, List.pairwise_map]
  exact Json.reported_sorted _ _

end

/-- What a text says of a registry that got the operator's finalizer and a status. -/
structure OwnEdit (shown r : ImageRegistry) (text : String) : Prop where
  /-- The text has a line for each change. -/
  lines : linesOf text = (Json.reported shown.toJson r.toJson).map Change.line
  ordered : ((linesOf text).map pathOf).Pairwise (· ≤ ·)
  /-- The line that adds the finalizer is the only one about the metadata. -/
  own : (linesOf text).filter (fun line => Within "/metadata" (pathOf line)) = [shown.finalizerLine]
  spec : ∀ line ∈ linesOf text, ¬ Within "/spec" (pathOf line)
  rest : ∀ line ∈ linesOf text, line = shown.finalizerLine ∨ Within "/status" (pathOf line)
  status_iff : (∀ line ∈ linesOf text, ¬ Within "/status" (pathOf line)) ↔ r.status = shown.status

theorem ownEdit (htidy : shown.metadata.Tidy)
    (hfree : shown.metadata.hasFinalizer finalizer = false) (readings : Readings)
    (deployment : Option Deployment) (applied : Applied) :
    OwnEdit shown (shown.held.observed readings deployment applied)
      (Json.describeChanges shown.toJson
        (shown.held.observed readings deployment applied).toJson) := by
  let r := shown.held.observed readings deployment applied
  let text := Json.describeChanges shown.toJson r.toJson
  have hperm : (linesOf text).Perm
      (shown.finalizerLine :: (statusChanges shown r).map Change.line) :=
    lines_perm htidy hfree rfl rfl
  have hmem : ∀ line, line ∈ linesOf text ↔
      line = shown.finalizerLine ∨ line ∈ (statusChanges shown r).map Change.line := fun line =>
    hperm.mem_iff.trans List.mem_cons
  have hown : Within "/metadata" (pathOf shown.finalizerLine) := finalizerLine_within htidy hfree
  refine ⟨lines_report htidy hfree rfl rfl, paths_sorted htidy hfree rfl rfl, ?own, ?spec, ?rest,
    ?status⟩
  case own =>
    refine List.perm_singleton.mp ((hperm.filter _).trans (.of_eq ?_))
    rw [List.filter_cons_of_pos (by simpa using hown), List.filter_eq_nil_iff.mpr]
    intro line hline
    simpa using (statusLine_within hline).apart (by decide) (by decide)
  case spec =>
    intro line hline
    rcases (hmem line).mp hline with rfl | hline
    · exact hown.apart (by decide) (by decide)
    · exact (statusLine_within hline).apart (by decide) (by decide)
  case rest =>
    intro line hline
    rcases (hmem line).mp hline with rfl | hline
    · exact Or.inl rfl
    · exact Or.inr (statusLine_within hline)
  case status =>
    rw [← statusChanges_eq_nil_iff rfl, ← List.map_eq_nil_iff (f := Change.line),
      List.eq_nil_iff_forall_not_mem]
    constructor
    · intro h line hline
      exact h line ((hmem line).mpr (Or.inr hline)) (statusLine_within hline)
    · intro h line hline
      rcases (hmem line).mp hline with rfl | hline
      · exact hown.apart (by decide) (by decide)
      · exact absurd hline (h line)

end ImageRegistry
end RegistryOperator
