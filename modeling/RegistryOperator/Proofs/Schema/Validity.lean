import RegistryOperator.Proofs.Json.Records
import RegistryOperator.Schema.CustomResource
import RegistryOperator.Time.Rfc3339

/-! Which documents are valid under a schema. Validity is read off the document of the schema, one
keyword after the other, as whoever installs it would. For the schemas of this library it comes down
to one rule for each form: a text, a moment, one of some words, a whole number within its range, a
list of valid items, or a record whose fields are valid and whose required ones are there. -/

namespace RegistryOperator

namespace Json

/-- The items of an array; of anything else there are none. -/
def elements : Json → List Json
  | .arr items => items
  | _ => []

/-- Whether a document is of a type. A number is whole if it is held as such. -/
def HasType (type : Json) : Json → Prop
  | .str _ => type = .str "string"
  | .num (.whole _) => type = .str "integer"
  | .arr _ => type = .str "array"
  | .obj _ => type = .str "object"
  | _ => False

/-- Whether a document is of a format. -/
def HasFormat (format : Json) : Json → Prop
  | .num (.whole n) => (format = .str "int32" ∧ -2 ^ (31 : ℕ) ≤ n ∧ n ≤ 2 ^ (31 : ℕ) - 1) ∨
      (format = .str "int64" ∧ -2 ^ (63 : ℕ) ≤ n ∧ n ≤ 2 ^ (63 : ℕ) - 1)
  | .str s => format = .str "date-time" ∧ (Timestamp.ofText? s).isSome
  | _ => False

mutual

/-- Whether a document, the second, is valid under a schema: it is null where that is allowed, or it
meets all keywords. -/
def Valid : Json → Json → Prop
  | .obj keywords, j => (lookup "nullable" keywords = some (.bool true) ∧ j = .null) ∨
      Meets keywords j
  | _, _ => False

/-- Whether a document meets each keyword of a schema. Those that describe, name or allow something
ask for nothing. -/
def Meets : List (String × Json) → Json → Prop
  | [], _ => True
  | (keyword, value) :: rest, j =>
    (if keyword = "type" then HasType value j
      else if keyword = "format" then HasFormat value j
      else if keyword = "enum" then j ∈ value.elements
      else if keyword = "items" then ∀ item ∈ j.elements, Valid value item
      else if keyword = "properties" then HasProperties value j
      else if keyword = "required" then
        ∀ name ∈ value.elements, ∃ s, name = .str s ∧ j.get? s ≠ none
      else True) ∧ Meets rest j

/-- Whether the members of a document that are properties of the first are valid. -/
def HasProperties : Json → Json → Prop
  | .obj properties, j => HasMembers properties j
  | _, _ => False

def HasMembers : List (String × Json) → Json → Prop
  | [], _ => True
  | (name, schema) :: rest, j => (∀ v ∈ j.get? name, Valid schema v) ∧ HasMembers rest j

end

variable {j : Json} {keywords rest : List (String × Json)} {fields : List (String × Option Json)}

theorem meets_cons {keyword : String} {value : Json} :
    Meets ((keyword, value) :: rest) j ↔ Meets [(keyword, value)] j ∧ Meets rest j := by
  simp only [Meets, and_true]

theorem meets_present :
    Meets (present fields) j ↔ ∀ f ∈ fields, ∀ value ∈ f.2, Meets [(f.1, value)] j := by
  induction fields with
  | nil => simp [present, Meets]
  | cons f fields ih =>
      obtain ⟨keyword, value⟩ := f
      rw [List.forall_mem_cons, ← ih]
      cases value with
      | none => simp [present]
      | some value =>
          have hpresent : present ((keyword, some value) :: fields) =
              (keyword, value) :: present fields := rfl
          rw [hpresent, meets_cons]
          simp

end Json

namespace Schema

open Json

/-- What is noted about a schema. -/
def note : Schema → SchemaNote
  | .text note => note
  | .moment note => note
  | .choice note _ => note
  | .integer note _ => note
  | .list note _ => note
  | .record note _ => note

/-- Whether a document is valid under the document of a schema. -/
def Accepts (s : Schema) (j : Json) : Prop := Valid s.toJson j

/-- Whether the members of a document are as a field asks: there if it is required, and valid. -/
def FieldOf (ms : List (String × Json)) (f : String × Bool × Schema) : Prop :=
  (f.2.1 = true → lookup f.1 ms ≠ none) ∧ ∀ v ∈ lookup f.1 ms, f.2.2.Accepts v

/-- Whether a document has the form that a schema asks for. -/
def HasForm : Schema → Json → Prop
  | .text _, j => ∃ s, j = .str s
  | .moment _, j => ∃ s, j = .str s ∧ (Timestamp.ofText? s).isSome
  | .choice _ words, j => ∃ w ∈ words, j = .str w
  | .integer _ bits, j => ∃ n : Int, j = .int n ∧ HasFormat (.str ("int" ++ toString bits)) j
  | .list _ item, j => ∃ items, j = .arr items ∧ ∀ x ∈ items, item.Accepts x
  | .record _ fields, j => ∃ ms, j = .obj ms ∧ ∀ f ∈ fields, FieldOf ms f

variable {j : Json} {note : SchemaNote}

theorem nullable_frame (note : SchemaNote) (type : String) (words : Option Json)
    (format : Option String) (items properties required : Option Json) :
    lookup "nullable" (present (frame note type words format items properties required)) =
      if note.nullable then some (.bool true) else none :=
  lookup_present (by simp [frame]) (by simp [frame])

theorem meets_frame {type : String} {words : Option Json} {format : Option String}
    {items properties required : Option Json} :
    Meets (present (frame note type words format items properties required)) j ↔
      (∀ v ∈ words, j ∈ v.elements) ∧ (∀ s ∈ format, HasFormat (.str s) j) ∧
      (∀ v ∈ items, ∀ x ∈ j.elements, Valid v x) ∧ (∀ v ∈ properties, HasProperties v j) ∧
      (∀ v ∈ required, ∀ name ∈ v.elements, ∃ s, name = .str s ∧ j.get? s ≠ none) ∧
      HasType (.str type) j := by
  rw [meets_present]
  simp only [frame, List.forall_mem_cons]
  simp [Meets]

theorem hasMembers_fieldsJson {fields : List (String × Bool × Schema)} :
    HasMembers (fieldsJson fields) j ↔ ∀ f ∈ fields, ∀ v ∈ j.get? f.1, f.2.2.Accepts v := by
  induction fields with
  | nil => simp [fieldsJson, HasMembers]
  | cons f fields ih =>
      obtain ⟨name, required, schema⟩ := f
      rw [fieldsJson, HasMembers, ih, List.forall_mem_cons]
      rfl

theorem requiredNames_met {fields : List (String × Bool × Schema)} :
    (∀ v ∈ requiredNames fields, ∀ name ∈ v.elements, ∃ s, name = .str s ∧ j.get? s ≠ none) ↔
      ∀ f ∈ fields, f.2.1 = true → j.get? f.1 ≠ none := by
  have hnames : (∀ v ∈ requiredNames fields, ∀ name ∈ v.elements,
        ∃ s, name = .str s ∧ j.get? s ≠ none) ↔
      ∀ name ∈ (fields.filter (·.2.1)).map (·.1), j.get? name ≠ none := by
    unfold requiredNames
    cases (fields.filter (·.2.1)).map (·.1) <;> simp [elements]
  rw [hnames]
  simp only [List.forall_mem_map, List.mem_filter, and_imp]

/-- The document of a record asks of the members what the schemas of the fields do. -/
theorem exists_properties (note : SchemaNote) (fields : List (String × Bool × Schema)) :
    ∃ properties : Option Json,
      (record note fields).toJson = .record (frame note "object" none none none properties
        (requiredNames fields)) ∧
      ∀ j : Json, (∀ v ∈ properties, HasProperties v j) ↔
        ∀ f ∈ fields, ∀ v ∈ j.get? f.1, f.2.2.Accepts v := by
  refine ⟨_, by rw [toJson], fun j => ?_⟩
  rw [← hasMembers_fieldsJson]
  cases fieldsJson fields <;> simp [HasProperties, HasMembers]

theorem valid_frame {type : String} {words : Option Json} {format : Option String}
    {items properties required : Option Json} :
    Valid (.record (frame note type words format items properties required)) j ↔
      (note.nullable = true ∧ j = .null) ∨
        Meets (present (frame note type words format items properties required)) j := by
  have hnullable := nullable_frame note type words format items properties required
  rw [present] at hnullable ⊢
  rw [Json.record, Valid, hnullable]
  simp

theorem hasType_array : HasType (.str "array") j ↔ ∃ items, j = .arr items := by
  cases j with
  | num n => cases n <;> simp [HasType]
  | _ => simp [HasType]

theorem hasType_object : HasType (.str "object") j ↔ ∃ ms, j = .obj ms := by
  cases j with
  | num n => cases n <;> simp [HasType]
  | _ => simp [HasType]

/-- A document is valid if it has the form that the schema asks for, or is null and may be. -/
theorem accepts_iff (s : Schema) (j : Json) :
    s.Accepts j ↔ (s.note.nullable = true ∧ j = .null) ∨ s.HasForm j := by
  cases s with
  | text note =>
      rw [Accepts, toJson, valid_frame, meets_frame]
      refine or_congr Iff.rfl ?_
      cases j with
      | num n => cases n <;> simp [HasForm, HasType]
      | _ => simp [HasForm, HasType]
  | moment note =>
      rw [Accepts, toJson, valid_frame, meets_frame]
      refine or_congr Iff.rfl ?_
      cases j with
      | num n => cases n <;> simp [HasForm, HasType]
      | _ => simp [HasForm, HasType, HasFormat]
  | choice note words =>
      rw [Accepts, toJson, valid_frame, meets_frame]
      refine or_congr Iff.rfl ?_
      cases j with
      | num n => cases n <;> simp [HasForm, HasType]
      | _ => simp [HasForm, HasType, elements]
  | integer note bits =>
      rw [Accepts, toJson, valid_frame, meets_frame]
      refine or_congr Iff.rfl ?_
      cases j with
      | num n => cases n <;> simp [HasForm, HasType, HasFormat, Json.int]
      | _ => simp [HasForm, HasType, Json.int]
  | list note item =>
      rw [Accepts, toJson, valid_frame, meets_frame, hasType_array]
      refine or_congr Iff.rfl ?_
      cases j <;> simp [HasForm, elements, Accepts]
  | record note fields =>
      obtain ⟨properties, hdocument, hproperties⟩ := exists_properties note fields
      rw [Accepts, hdocument, valid_frame, meets_frame, hproperties, requiredNames_met,
        hasType_object]
      refine or_congr Iff.rfl ?_
      cases j with
      | obj ms =>
          have hfields : HasForm (record note fields) (.obj ms) ↔
              (∀ f ∈ fields, f.2.1 = true → lookup f.1 ms ≠ none) ∧
                ∀ f ∈ fields, ∀ v ∈ lookup f.1 ms, f.2.2.Accepts v := by
            simp only [HasForm, Json.obj.injEq, exists_eq_left', FieldOf, ← forall₂_and]
          rw [hfields]
          constructor
          · rintro ⟨-, -, -, hvalid, hrequired, -⟩
            exact ⟨hrequired, hvalid⟩
          · rintro ⟨hrequired, hvalid⟩
            exact ⟨by simp, by simp, by simp, hvalid, hrequired, ms, rfl⟩
      | _ => simp [HasForm]

section

variable {s : Schema} {name : String} {must : Bool} {v : Json} {ms : List (String × Json)}

theorem FieldOf.present (hv : lookup name ms = some v) (h : s.Accepts v) :
    FieldOf ms (name, must, s) := by
  rw [FieldOf, hv]
  exact ⟨by simp, fun _ hj => Option.mem_some.mp hj ▸ h⟩

theorem FieldOf.absent (hv : lookup name ms = none) : FieldOf ms (name, false, s) := by
  rw [FieldOf, hv]
  exact ⟨by simp, by simp⟩

end

end Schema
end RegistryOperator
