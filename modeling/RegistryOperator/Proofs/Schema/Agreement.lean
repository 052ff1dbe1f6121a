import RegistryOperator.Proofs.Resource.RoundTrip
import RegistryOperator.Proofs.Schema.Validity

/-! The schemas that the definitions of the custom resources publish agree with the decoders and
encoders of the resources. A decoder follows a schema if it gives a value of every valid document,
and it follows the schema of a record if it asks of each field no more than the schema does. In the
other direction a record that is written field by field is valid if each field is, and if the
required ones are always written. -/

namespace RegistryOperator

open Json

variable {α β : Type}

/-- Whether the decoder gives a value of the document. -/
def Decoder.Takes (d : Decoder α) (j : Json) : Prop := ∃ a, d (Scan.ofJson j) = .ok a

/-- Whether the decoder gives a value of every document of the form that a schema asks for. -/
def Decoder.Fits (d : Decoder α) (s : Schema) : Prop := ∀ j, j.Tidy → s.HasForm j → d.Takes j

/-- Whether the decoder gives a value of every document that is valid under a schema. -/
def Decoder.Follows (d : Decoder α) (s : Schema) : Prop := ∀ j, j.Tidy → s.Accepts j → d.Takes j

namespace Decoder.Fits

variable {d : Decoder α} {s : Schema} {note : SchemaNote}

/-- What is not nullable is valid in one way only. -/
theorem follows (h : d.Fits s) (hnote : s.note.nullable = false) : d.Follows s := by
  intro j htidy hvalid
  rcases (s.accepts_iff j).mp hvalid with ⟨hnullable, -⟩ | hform
  · rw [hnote] at hnullable
    cases hnullable
  · exact h j htidy hform

theorem nullable (h : d.Fits s) : (Decode.nullable d).Follows s := by
  intro j htidy hvalid
  by_cases hnull : j = .null
  · exact ⟨none, by rw [hnull]; rfl⟩
  · rcases (s.accepts_iff j).mp hvalid with ⟨-, hj⟩ | hform
    · exact absurd hj hnull
    · obtain ⟨a, ha⟩ := h j htidy hform
      exact ⟨some a, Decode.nullable_of_ne hnull ha⟩

theorem string : Decode.string.Fits (.text note) := by
  rintro j - ⟨s, rfl⟩
  exact ⟨s, rfl⟩

theorem managementState : ManagementState.decode.Fits (.text note) := by
  rintro j - ⟨s, rfl⟩
  exact ⟨.ofWord s, rfl⟩

theorem moment : Timestamp.decode.Fits (.moment note) := by
  rintro j - ⟨s, rfl, hmoment⟩
  obtain ⟨t, ht⟩ := Option.isSome_iff_exists.mp hmoment
  exact ⟨t, by simp [Timestamp.decode, Decode.via, Decode.string, Scan.ofJson, ht]⟩

/-- A choice has to be of words that are all known. -/
theorem word {f : String → Option α} {words : List String} (hwords : ∀ w ∈ words, (f w).isSome) :
    (Decode.word f).Fits (.choice note words) := by
  rintro j - ⟨w, hw, rfl⟩
  obtain ⟨a, ha⟩ := Option.isSome_iff_exists.mp (hwords w hw)
  exact ⟨a, by simp [Decode.word, Scan.ofJson, ha]⟩

theorem int32 : Decode.int32.Fits (.integer note 32) := by
  rintro j - ⟨n, rfl, hformat⟩
  have hrange : -2 ^ (31 : ℕ) ≤ n ∧ n ≤ 2 ^ (31 : ℕ) - 1 := by
    simpa [HasFormat, Json.int, show "int" ++ (32 : Nat).repr = "int32" by decide] using hformat
  exact ⟨n, Decode.whole_int hrange⟩

theorem int64 : Decode.int64.Fits (.integer note 64) := by
  rintro j - ⟨n, rfl, hformat⟩
  have hrange : -2 ^ (63 : ℕ) ≤ n ∧ n ≤ 2 ^ (63 : ℕ) - 1 := by
    simpa [HasFormat, Json.int, show "int" ++ (64 : Nat).repr = "int64" by decide] using hformat
  exact ⟨n, Decode.whole_int hrange⟩

theorem list (h : d.Follows s) : (Decode.list d).Fits (.list note s) := by
  rintro j htidy ⟨items, rfl, hvalid⟩
  have hitems : ∃ as, Decode.items d (Scan.ofItems items) = .ok as := by
    replace htidy : TidyItems items := htidy
    induction items with
    | nil => exact ⟨[], rfl⟩
    | cons item items ih =>
        obtain ⟨hitem, hrest⟩ := htidy
        obtain ⟨a, ha⟩ := h item hitem (hvalid item (by simp))
        obtain ⟨as, has⟩ := ih (fun x hx => hvalid x (List.mem_cons_of_mem _ hx)) hrest
        exact ⟨a :: as, by simp [Scan.ofItems, Decode.items, ha, has, Except.map]⟩
  obtain ⟨as, has⟩ := hitems
  exact ⟨as, by simp [Decode.list, Scan.ofJson, has]⟩

end Decoder.Fits

/-- Whether the description gives a record of the members of an object. -/
def Reading.Takes (r : Reading α) (ms : List (String × Json)) : Prop :=
  (Json.obj ms).Tidy →
    ∃ a, r.read false (fun name => occurrences name 0 (Scan.ofMembers ms)) = .ok a

namespace Reading.Takes

variable {d : Decoder α} {r : Reading α} {f : Reading (α → β)} {s : Schema} {note : SchemaNote}
  {name : String} {must : Bool} {ms : List (String × Json)}
  {fields : List (String × Bool × Schema)}

theorem pure {a : α} : (Pure.pure a : Reading α).Takes ms := fun _ => ⟨a, rfl⟩

theorem seq (hf : f.Takes ms) (hr : r.Takes ms) : (f <*> r).Takes ms := by
  intro htidy
  obtain ⟨g, hg⟩ := hf htidy
  obtain ⟨a, ha⟩ := hr htidy
  exact ⟨g a, by rw [read_seq, hg, ha]⟩

theorem map {g : α → β} (hr : r.Takes ms) : (g <$> r).Takes ms := seq pure hr

theorem present {absent : Bool → Except Problem α} {v : Json} {a : α}
    (hv : lookup name ms = some v) (ha : d (Scan.ofJson v) = .ok a) :
    (field name d absent).Takes ms := by
  intro htidy
  obtain ⟨i, hi⟩ := occurrences_ofMembers name htidy.1 0
  exact ⟨a, by simp [field, hi, hv, last?, ha]⟩

/-- A field is taken if it is valid under a schema that its decoder follows, and may be absent if it
is not required. -/
theorem field {absent : Bool → Except Problem α} (hfield : Schema.FieldOf ms (name, must, s))
    (hd : d.Follows s) (habsent : must = false → ∃ a, absent false = .ok a) :
    (field name d absent).Takes ms := by
  intro htidy
  obtain ⟨hthere, hvalid⟩ := hfield
  cases hv : lookup name ms with
  | none =>
      obtain ⟨i, hi⟩ := occurrences_ofMembers name htidy.1 0
      obtain ⟨a, ha⟩ := habsent (Bool.eq_false_iff.mpr fun hmust => hthere hmust hv)
      exact ⟨a, by simp [Reading.field, hi, hv, last?, ha]⟩
  | some v =>
      obtain ⟨a, ha⟩ := hd v (htidy.2.lookup hv) (hvalid v hv)
      exact present hv ha htidy

theorem required (hfield : Schema.FieldOf ms (name, true, s)) (hd : d.Follows s) :
    (required name d).Takes ms := field hfield hd nofun

theorem defaulted {default : α} (hfield : Schema.FieldOf ms (name, must, s)) (hd : d.Follows s) :
    (defaulted name d default).Takes ms := field hfield hd fun _ => ⟨default, rfl⟩

theorem optional (hfield : Schema.FieldOf ms (name, must, s)) (hd : d.Fits s) :
    (optional name d).Takes ms := defaulted hfield hd.nullable

theorem nullable (hfield : Schema.FieldOf ms (name, must, s)) (hd : d.Fits s) :
    (nullable name d).Takes ms := field hfield hd.nullable fun _ => ⟨none, rfl⟩

theorem decode (hr : r.Takes ms) (htidy : (Json.obj ms).Tidy) : r.decode.Takes (.obj ms) := by
  obtain ⟨a, ha⟩ := hr htidy
  refine ⟨a, ?_⟩
  rw [Scan.ofJson, Reading.decode, Reading.ofMembers,
    oddity_ofMembers Scan.stop_ofJson htidy.1 (by simp), ha]
  rfl

end Reading.Takes

/-- A record is taken if its description takes the members that are as their fields ask. -/
theorem Decoder.Fits.record {r : Reading α} {note : SchemaNote}
    {fields : List (String × Bool × Schema)}
    (h : ∀ ms, fields.Forall (Schema.FieldOf ms) → r.Takes ms) :
    r.decode.Fits (.record note fields) := by
  rintro j htidy ⟨ms, rfl, hfields⟩
  exact (h ms (List.forall_iff_forall_mem.mpr hfields)).decode htidy

namespace Schema

variable {s : Schema} {note : SchemaNote} {members : List (String × Option Json)}
  {fields : List (String × Bool × Schema)}

theorem HasForm.accepts {j : Json} (h : s.HasForm j) : s.Accepts j :=
  (s.accepts_iff j).mpr (.inr h)

/-- Whether the writer of a record writes a field validly, and always if it is required. -/
def Written (members : List (String × Option Json)) (f : String × Bool × Schema) : Prop :=
  ∃ v, (f.1, v) ∈ members ∧ (f.2.1 = true → v ≠ none) ∧ ∀ j ∈ v, f.2.2.Accepts j

theorem Written.always {name : String} {must : Bool} {j : Json} (hmem : (name, some j) ∈ members)
    (h : s.Accepts j) : Written members (name, must, s) :=
  ⟨some j, hmem, by simp, fun _ hj => Option.mem_some.mp hj ▸ h⟩

theorem Written.ifAny {name : String} (o : Option α) (encode : α → Json)
    (hmem : (name, o.map encode) ∈ members) (h : ∀ a ∈ o, s.Accepts (encode a)) :
    Written members (name, false, s) := by
  refine ⟨o.map encode, hmem, by simp, fun j hj => ?_⟩
  obtain ⟨a, ha, rfl⟩ := Option.map_eq_some_iff.mp hj
  exact h a ha

theorem Written.fieldOf {f : String × Bool × Schema} (h : Written members f)
    (hkeys : (members.map Prod.fst).Nodup) : FieldOf (present members) f := by
  obtain ⟨v, hmem, hthere, hvalid⟩ := h
  rw [FieldOf, lookup_present hkeys hmem]
  exact ⟨hthere, hvalid⟩

theorem accepts_obj {ms : List (String × Json)} (h : fields.Forall (FieldOf ms)) :
    (record note fields).Accepts (.obj ms) :=
  HasForm.accepts ⟨ms, rfl, List.forall_iff_forall_mem.mp h⟩

/-- A record is valid if each of its fields is written as it should be. -/
theorem accepts_record (hkeys : (members.map Prod.fst).Nodup)
    (h : fields.Forall (Written members)) : (record note fields).Accepts (.record members) :=
  accepts_obj (h.imp fun _ hf => hf.fieldOf hkeys)

theorem accepts_text (s : String) : (text note).Accepts (.str s) := HasForm.accepts ⟨s, rfl⟩

theorem accepts_int32 {n : Int} (h : -2 ^ (31 : ℕ) ≤ n ∧ n ≤ 2 ^ (31 : ℕ) - 1) :
    (integer note 32).Accepts (.int n) :=
  HasForm.accepts ⟨n, rfl, .inl ⟨by decide, h⟩⟩

theorem accepts_int64 {n : Int} (h : -2 ^ (63 : ℕ) ≤ n ∧ n ≤ 2 ^ (63 : ℕ) - 1) :
    (integer note 64).Accepts (.int n) :=
  HasForm.accepts ⟨n, rfl, .inr ⟨by decide, h⟩⟩

theorem accepts_list {encode : α → Json} {as : List α} (h : ∀ a ∈ as, s.Accepts (encode a)) :
    (list note s).Accepts (.arr (as.map encode)) :=
  HasForm.accepts ⟨_, rfl, List.forall_mem_map.mpr h⟩

theorem accepts_choice {words : List String} {w : String} (hw : w ∈ words) :
    (choice note words).Accepts (.str w) := HasForm.accepts ⟨w, hw, rfl⟩

theorem accepts_moment {t : Timestamp} (h : t.Proper) : (moment note).Accepts (.str t.text) :=
  HasForm.accepts ⟨_, rfl, by rw [h.ofText?_text]; rfl⟩

end Schema

namespace Condition

theorem decode_fits : Condition.decode.Fits CustomResource.condition := by
  refine .record fun ms hfields => ?_
  obtain ⟨htime, hmessage, hreason, hstatus, htype⟩ := hfields
  exact .seq (.seq (.seq (.seq (.map (.required htype (Decoder.Fits.string.follows rfl)))
    (.required hstatus ((Decoder.Fits.word (by decide)).follows rfl)))
    (.optional hreason .string)) (.optional hmessage .string)) (.optional htime .moment)

theorem toJson_accepted {c : Condition} (h : c.Proper) :
    CustomResource.condition.Accepts c.toJson := by
  refine Schema.accepts_record (by simp) ?_
  have hstatus : c.status.name ∈ ["True", "False", "Unknown"] := by
    cases c.status <;> decide
  exact ⟨.ifAny c.lastTransitionTime (.str ·.text) (by simp) fun t ht =>
      Schema.accepts_moment (h t ht),
    .ifAny c.message .str (by simp) fun m _ => Schema.accepts_text m,
    .ifAny c.reason .str (by simp) fun r _ => Schema.accepts_text r,
    .always (by simp) (Schema.accepts_choice hstatus),
    .always (by simp) (Schema.accepts_text c.type)⟩

theorem decode_list_fits : (Decode.list Condition.decode).Fits CustomResource.conditions :=
  .list (decode_fits.follows rfl)

theorem toJson_list_accepted {conditions : List Condition} (h : ∀ c ∈ conditions, c.Proper) :
    CustomResource.conditions.Accepts (.arr (conditions.map Condition.toJson)) :=
  Schema.accepts_list fun c hc => toJson_accepted (h c hc)

end Condition

namespace RegistrySpec

open Decoder.Fits

theorem decode_fits : decode.Fits CustomResource.imageRegistry.spec := by
  refine .record fun ms hfields => ?_
  obtain ⟨hlevel, hstate, hreplicas, hstorage⟩ := hfields
  refine .seq (.seq (.seq (.map (.required hstate (Decoder.Fits.managementState.follows rfl)))
    (.required hreplicas (int32.follows rfl)))
    (.defaulted hstorage (Decoder.Fits.follows ?storage rfl))) (.optional hlevel string)
  refine .record fun ms hfields => ?_
  obtain ⟨hemptyDir, hpvc, hs3⟩ := hfields
  refine .seq (.seq (.map (.optional hemptyDir (.record fun _ _ => .pure)))
    (.optional hpvc (.record fun ms hfields => ?pvc)))
    (.optional hs3 (.record fun ms hfields => ?s3))
  case pvc =>
      exact .map (.required hfields (string.follows rfl))
  case s3 =>
      obtain ⟨hbucket, hregion⟩ := hfields
      exact .seq (.map (.required hbucket (string.follows rfl)))
        (.required hregion (string.follows rfl))

theorem toJson_accepted {s : RegistrySpec}
    (h : -2 ^ (31 : ℕ) ≤ s.replicas ∧ s.replicas ≤ 2 ^ (31 : ℕ) - 1) :
    CustomResource.imageRegistry.spec.Accepts s.toJson := by
  refine Schema.accepts_record (by simp) ?_
  refine ⟨.ifAny s.logLevel .str (by simp) fun l _ => Schema.accepts_text l,
    .always (by simp) (Schema.accepts_text s.managementState.word),
    .always (by simp) (Schema.accepts_int32 h),
    .always (j := s.storage.toJson) (by simp) ?storage⟩
  refine Schema.accepts_record (by simp) ?_
  refine ⟨.ifAny s.storage.emptyDir (fun _ => .record []) (by simp; rfl) fun _ _ => ?emptyDir,
    .ifAny s.storage.pvc (fun p => .record [("claim", some (.str p.claim))]) (by simp; rfl)
      fun p _ => ?pvc,
    .ifAny s.storage.s3 (fun b => .record [("bucket", some (.str b.bucket)),
      ("region", some (.str b.region))]) (by simp; rfl) fun b _ => ?s3⟩
  case emptyDir => exact Schema.accepts_record (by simp) trivial
  case pvc =>
      exact Schema.accepts_record (by simp) (.always (by simp) (Schema.accepts_text p.claim))
  case s3 =>
      refine Schema.accepts_record (by simp) ?_
      exact ⟨.always (by simp) (Schema.accepts_text b.bucket),
        .always (by simp) (Schema.accepts_text b.region)⟩

end RegistrySpec

namespace RegistryStatus

open Decoder.Fits (int32 int64)

theorem decode_fits : decode.Fits CustomResource.imageRegistry.status := by
  refine .record fun ms hfields => ?_
  obtain ⟨hconditions, hgeneration, hreplicas⟩ := hfields
  exact .seq (.seq (.map (.defaulted hgeneration (int64.follows rfl)))
    (.defaulted hreplicas (int32.follows rfl)))
    (.defaulted hconditions (Condition.decode_list_fits.follows rfl))

theorem toJson_accepted {s : RegistryStatus} (h : s.Proper) :
    CustomResource.imageRegistry.status.Accepts s.toJson := by
  change Schema.Accepts _ (.record [("observedGeneration", some (.int s.observedGeneration)),
    ("readyReplicas", some (.int s.readyReplicas)),
    ("conditions", some (.arr (s.conditions.map Condition.toJson)))])
  refine Schema.accepts_record (by simp) ?_
  exact ⟨.always (by simp) (Condition.toJson_list_accepted h.conditions),
    .always (by simp) (Schema.accepts_int64 h.observedGeneration),
    .always (by simp) (Schema.accepts_int32 h.readyReplicas)⟩

end RegistryStatus

namespace ClusterOperatorStatus

open Decoder.Fits

theorem reading_fits : reading.decode.Fits CustomResource.clusterOperator.status := by
  refine .record fun ms hfields => ?_
  obtain ⟨hconditions, hversions⟩ := hfields
  refine .seq (.map (.defaulted hconditions (Condition.decode_list_fits.follows rfl)))
    (.defaulted hversions (Decoder.Fits.follows (.list (Decoder.Fits.follows ?version rfl)) rfl))
  refine .record fun ms hfields => ?_
  obtain ⟨hname, hversion⟩ := hfields
  exact .seq (.map (.required hname (string.follows rfl)))
    (.required hversion (string.follows rfl))

theorem toJson_accepted {s : ClusterOperatorStatus} (h : ∀ c ∈ s.conditions, c.Proper) :
    CustomResource.clusterOperator.status.Accepts s.toJson := by
  change Schema.Accepts _ (.record [("conditions", some (.arr (s.conditions.map Condition.toJson))),
    ("versions", some (.arr (s.versions.map fun v =>
      .record [("name", some (.str v.name)), ("version", some (.str v.version))])))])
  refine Schema.accepts_record (by simp) ?_
  refine ⟨.always (by simp) (Condition.toJson_list_accepted h),
    .always (List.mem_cons_of_mem _ List.mem_cons_self) (Schema.accepts_list fun v _ => ?_)⟩
  refine Schema.accepts_record (by simp) ?_
  exact ⟨.always (by simp) (Schema.accepts_text v.name),
    .always (by simp) (Schema.accepts_text v.version)⟩

end ClusterOperatorStatus

namespace CustomResource

/-- The schema that the document of a definition has for the objects of its only version. -/
def published? (document : Json) : Option Json :=
  match (document.get? "spec").bind (·.get? "versions") with
  | some (.arr [version]) => (version.get? "schema").bind (·.get? "openAPIV3Schema")
  | _ => none

/-- Whether a document is valid under the schema that a definition publishes. -/
def Accepts (c : CustomResource) (j : Json) : Prop := ∃ schema ∈ published? c.toJson, Valid schema j

theorem published_toJson (c : CustomResource) :
    published? c.toJson = some (withTitle c.kind.name c.schema.toJson) := by
  rfl

/-- The keywords of a schema with a title. -/
def titled (title : String) (keywords : List (String × Json)) : List (String × Json) :=
  keywords.flatMap fun k => if k.1 = "type" then [("title", .str title), k] else [k]

section

variable {title : String} {key : String} {value schema j : Json} {keywords : List (String × Json)}

theorem titled_type :
    titled title (("type", value) :: keywords) =
      ("title", .str title) :: ("type", value) :: titled title keywords := rfl

theorem titled_of_ne (h : key ≠ "type") :
    titled title ((key, value) :: keywords) = (key, value) :: titled title keywords := by
  simp [titled, h]

theorem lookup_titled : lookup "nullable" (titled title keywords) = lookup "nullable" keywords := by
  induction keywords with
  | nil => rfl
  | cons k keywords ih =>
      obtain ⟨key, value⟩ := k
      by_cases hkey : key = "type"
      · subst hkey
        rw [titled_type]
        simpa [lookup] using ih
      · rw [titled_of_ne hkey, lookup, lookup, ih]

/-- A title asks nothing of a document. -/
theorem meets_titled : Meets (titled title keywords) j ↔ Meets keywords j := by
  induction keywords with
  | nil => rfl
  | cons k keywords ih =>
      obtain ⟨key, value⟩ := k
      by_cases hkey : key = "type"
      · subst hkey
        simp [titled_type, Meets, ih]
      · rw [titled_of_ne hkey, meets_cons, ih, ← meets_cons]

theorem valid_withTitle : Valid (withTitle title schema) j ↔ Valid schema j := by
  cases schema with
  | obj keywords =>
      change Valid (.obj (titled title keywords)) j ↔ _
      rw [Valid, Valid, lookup_titled, meets_titled]
  | _ => rfl

end

/-- A document is valid under a published schema if it is an object whose spec is valid, and its
status as well if there is one. -/
theorem accepts_iff {c : CustomResource} {j : Json} :
    c.Accepts j ↔ ∃ ms, j = .obj ms ∧ Schema.FieldOf ms ("spec", true, c.spec) ∧
      Schema.FieldOf ms ("status", false, c.status) := by
  have hschema : c.Accepts j ↔ c.schema.Accepts j := by
    simp only [Accepts, published_toJson, Option.mem_some, exists_eq_left', valid_withTitle,
      Schema.Accepts]
  rw [hschema, Schema.accepts_iff]
  simp [schema, Schema.note, Schema.HasForm]

/-- What is written of a resource is valid if its spec and its status are. -/
theorem accepts_record {c : CustomResource} {members : List (String × Option Json)}
    (hkeys : (members.map Prod.fst).Nodup)
    (hspec : Schema.Written members ("spec", true, c.spec))
    (hstatus : Schema.Written members ("status", false, c.status)) :
    c.Accepts (.record members) :=
  accepts_iff.mpr ⟨_, rfl, hspec.fieldOf hkeys, hstatus.fieldOf hkeys⟩

end CustomResource

theorem Reading.Takes.metadata {ms : List (String × Json)}
    (h : ∃ v m, lookup "metadata" ms = some v ∧ Metadata.decode.ofJson v = .ok m) :
    (Reading.required "metadata" Metadata.decode).Takes ms := by
  obtain ⟨v, m, hv, hm⟩ := h
  exact .present hv (Decoder.ofJson_eq_ok.mp hm)

namespace CustomResource

/-- **The published schemas agree with the decoders and encoders of the resources.** A document
without repeated names that is valid under the schema of a resource is decoded if its metadata can
be. In return, whatever is written of a resource is valid, as long as its numbers are in the ranges
of their types and its times have dates. -/
theorem schemas_agree :
    (∀ j : Json, j.Tidy → imageRegistry.Accepts j →
      (∃ v m, j.get? "metadata" = some v ∧ Metadata.decode.ofJson v = .ok m) →
        ∃ r, ImageRegistry.decode.ofJson j = .ok r) ∧
    (∀ j : Json, j.Tidy → clusterOperator.Accepts j →
      (∃ v m, j.get? "metadata" = some v ∧ Metadata.decode.ofJson v = .ok m) →
        ∃ o, ClusterOperator.decode.ofJson j = .ok o) ∧
    (∀ r : ImageRegistry, -2 ^ (31 : ℕ) ≤ r.spec.replicas ∧ r.spec.replicas ≤ 2 ^ (31 : ℕ) - 1 →
      (∀ s ∈ r.status, s.Proper) → imageRegistry.Accepts r.toJson) ∧
    ∀ o : ClusterOperator, (∀ s ∈ o.status, ∀ c ∈ s.conditions, c.Proper) →
      clusterOperator.Accepts o.toJson := by
  refine ⟨fun j htidy hvalid hmetadata => ?_, fun j htidy hvalid hmetadata => ?_,
    fun r hreplicas hstatus => accepts_record (by simp) ?_ ?_,
    fun o hstatus => accepts_record (by simp) ?_ ?_⟩
  · obtain ⟨ms, rfl, hspec, hstatus⟩ := accepts_iff.mp hvalid
    obtain ⟨r, hr⟩ := Reading.Takes.decode (.seq (.seq (.map (.metadata hmetadata))
      (.required hspec (RegistrySpec.decode_fits.follows rfl)))
      (.nullable hstatus RegistryStatus.decode_fits)) htidy
    exact ⟨r, Decoder.ofJson_ok hr⟩
  · obtain ⟨ms, rfl, hspec, hstatus⟩ := accepts_iff.mp hvalid
    obtain ⟨o, ho⟩ := Reading.Takes.decode (.seq (.seq (.map (.metadata hmetadata))
      (.required hspec (Decoder.Fits.follows (.record fun _ _ => .pure) rfl)))
      (.nullable hstatus ClusterOperatorStatus.reading_fits)) htidy
    exact ⟨o, Decoder.ofJson_ok ho⟩
  · exact .always (j := r.spec.toJson) (by simp) (RegistrySpec.toJson_accepted hreplicas)
  · exact .ifAny r.status RegistryStatus.toJson (by simp) fun s hs =>
      RegistryStatus.toJson_accepted (hstatus s hs)
  · exact .always (j := .record []) (by simp; rfl) (Schema.accepts_record (by simp) trivial)
  · exact .ifAny o.status ClusterOperatorStatus.toJson (by simp) fun s hs =>
      ClusterOperatorStatus.toJson_accepted (hstatus s hs)

/-- A valid document may have members that the schema does not know and a null status, and a status
may be of a leap second. -/
theorem schemas_agree_unknown_member :
    (∃ r, ImageRegistry.decode.ofJson (.obj [("metadata", .obj []), ("status", .null),
      ("spec", .obj [("managementState", .str "Paused"), ("paused", .bool true),
        ("replicas", .int 3)])]) = .ok r) ∧
    (∃ o, ClusterOperator.decode.ofJson (.obj [("spec", .obj []), ("metadata", .obj [])]) = .ok o) ∧
    imageRegistry.Accepts (ImageRegistry.toJson ⟨{}, {}, some ⟨3, 1,
      [⟨"Available", .yes, none, none, some ⟨1483228799, 1500000000⟩⟩]⟩⟩) ∧
    clusterOperator.Accepts (ClusterOperator.toJson ⟨{}, none⟩) := by
  obtain ⟨hregistry, hoperator, hwritten, hwritten'⟩ := schemas_agree
  have hmetadata : Metadata.decode.ofJson (.obj []) = .ok {} := rfl
  refine ⟨hregistry _ ?_ ?_ ⟨_, _, rfl, hmetadata⟩, hoperator _ ?_ ?_ ⟨_, _, rfl, hmetadata⟩,
    hwritten _ (by decide) ?_, hwritten' _ nofun⟩
  · simp [Tidy, TidyMembers, Json.int]
  · refine accepts_iff.mpr ⟨_, rfl, .present rfl (Schema.accepts_obj ?_),
      .present rfl ((Schema.accepts_iff _ _).mpr (.inl ⟨rfl, rfl⟩))⟩
    exact ⟨.absent rfl, .present rfl (Schema.accepts_text "Paused"),
      .present rfl (Schema.accepts_int32 (by decide)), .absent rfl⟩
  · simp [Tidy, TidyMembers]
  · exact accepts_iff.mpr ⟨_, rfl, .present rfl (Schema.accepts_obj trivial), .absent rfl⟩
  · intro s hs
    cases hs
    refine ⟨by decide, by decide, ?_⟩
    intro c hc t ht
    cases List.mem_singleton.mp hc
    cases ht
    exact ⟨by decide, by decide, by decide⟩

end CustomResource

end RegistryOperator
