import Mathlib.Data.List.Nodup
import RegistryOperator.Json.Decode

/-! Records and their documents. What a decoder can give is read off the decoders of its fields, and
a document that is written field by field is decoded field by field: of a name the writer uses only
once there is one member, and nothing else in the document stops the reader. Documents without
repeated names are also kept as they are by whoever reads any document. -/

namespace RegistryOperator

variable {α β γ : Type}

namespace Json

variable {key name : String} {value v : Json} {ms done : List (String × Json)}

mutual

/-- No object of the document has two members of one name. -/
def Tidy : Json → Prop
  | .arr items => TidyItems items
  | .obj members => (members.map Prod.fst).Nodup ∧ TidyMembers members
  | _ => True

def TidyItems : List Json → Prop
  | [] => True
  | item :: rest => item.Tidy ∧ TidyItems rest

def TidyMembers : List (String × Json) → Prop
  | [] => True
  | (_, value) :: rest => value.Tidy ∧ TidyMembers rest

end

theorem mem_keys_put (h : name ∈ (put key value ms).map Prod.fst) :
    name = key ∨ name ∈ ms.map Prod.fst := by
  induction ms with
  | nil => simpa [put] using h
  | cons m ms ih => grind [put]

theorem nodup_put (h : (ms.map Prod.fst).Nodup) : ((put key value ms).map Prod.fst).Nodup := by
  induction ms with
  | nil => simp [put]
  | cons m ms ih =>
      obtain ⟨hm, hms⟩ := List.nodup_cons.mp h
      rw [put]
      split_ifs with hkey
      · exact List.nodup_cons.mpr ⟨hm, hms⟩
      · refine List.nodup_cons.mpr ⟨fun hmem => ?_, ih hms⟩
        rcases mem_keys_put hmem with hsame | hold
        · exact hkey hsame
        · exact hm hold

theorem TidyMembers.put (h : TidyMembers ms) (hvalue : value.Tidy) :
    TidyMembers (put key value ms) := by
  induction ms with
  | nil => exact ⟨hvalue, trivial⟩
  | cons m ms ih =>
      obtain ⟨hm, hms⟩ := h
      rw [Json.put]
      split_ifs
      · exact ⟨hvalue, hms⟩
      · exact ⟨hm, ih hms⟩

theorem TidyMembers.lookup (h : TidyMembers ms) (hv : lookup name ms = some v) : v.Tidy := by
  induction ms with
  | nil => cases hv
  | cons m ms ih =>
      obtain ⟨key, value⟩ := m
      rw [Json.lookup] at hv
      split_ifs at hv with hkey
      · cases hv
        exact h.1
      · exact ih h.2 hv

theorem put_new (h : key ∉ ms.map Prod.fst) : put key value ms = ms ++ [(key, value)] := by
  induction ms with
  | nil => rfl
  | cons m ms ih =>
      simp only [List.map_cons, List.mem_cons, not_or] at h
      rw [put, if_neg (Ne.symm h.1), ih h.2, List.cons_append]

end Json

namespace Scan

theorem toJson_arr {items : List Scan} {stopped : Option DecodeError} {j : Json} :
    (arr items stopped).toJson = .ok j ↔
      ∃ js, toItems items = .ok js ∧ stopped = none ∧ j = .arr js := by
  unfold toJson
  cases toItems items <;> cases stopped <;> simp [eq_comm]

theorem toJson_obj {members : List (NameScan × Scan)} {stopped : Option DecodeError} {j : Json} :
    (obj members stopped).toJson = .ok j ↔
      ∃ ms, toMembers members [] = .ok ms ∧ stopped = none ∧ j = .obj ms := by
  unfold toJson
  cases toMembers members [] <;> cases stopped <;> simp [eq_comm]

mutual

/-- What is kept of a document has no repeated names. -/
theorem tidy_of_toJson : ∀ {scan : Scan} {j : Json}, scan.toJson = .ok j → j.Tidy
  | .null, _, h => by cases h; trivial
  | .bool _, _, h => by cases h; trivial
  | .num _, _, h => by cases h; trivial
  | .str _, _, h => by cases h; trivial
  | .arr items stopped, j, h => by
      obtain ⟨js, hitems, -, rfl⟩ := toJson_arr.mp h
      exact tidy_of_toItems hitems
  | .obj members stopped, j, h => by
      obtain ⟨ms, hmembers, -, rfl⟩ := toJson_obj.mp h
      exact tidy_of_toMembers hmembers List.nodup_nil trivial
  | .broken _, _, h => by cases h

theorem tidy_of_toItems : ∀ {scans : List Scan} {js : List Json}, toItems scans = .ok js →
    Json.TidyItems js
  | [], _, h => by cases h; trivial
  | item :: rest, js, h => by
      rw [toItems] at h
      split at h
      · cases h
      · next j hitem =>
          split at h
          · cases h
          · next js' hrest =>
              cases h
              exact ⟨tidy_of_toJson hitem, tidy_of_toItems hrest⟩

theorem tidy_of_toMembers : ∀ {scans : List (NameScan × Scan)} {done ms : List (String × Json)},
    toMembers scans done = .ok ms → (done.map Prod.fst).Nodup → Json.TidyMembers done →
      (ms.map Prod.fst).Nodup ∧ Json.TidyMembers ms
  | [], _, _, h, hkeys, htidy => by
      cases h
      exact ⟨hkeys, htidy⟩
  | (.text key, value) :: rest, done, ms, h, hkeys, htidy => by
      rw [toMembers] at h
      split at h
      · cases h
      · next j hvalue =>
          exact tidy_of_toMembers h (Json.nodup_put hkeys) (htidy.put (tidy_of_toJson hvalue))

end

theorem eq_null_of_toJson {scan : Scan} (h : scan.toJson = .ok .null) : scan = .null := by
  cases scan with
  | null => rfl
  | arr items stopped =>
      obtain ⟨js, -, -, hjs⟩ := toJson_arr.mp h
      cases hjs
  | obj members stopped =>
      obtain ⟨ms, -, -, hms⟩ := toJson_obj.mp h
      cases hms
  | _ => cases h

mutual

/-- A document without repeated names is kept as it is. -/
theorem toJson_ofJson : ∀ {j : Json}, j.Tidy → (ofJson j).toJson = .ok j
  | .null, _ => rfl
  | .bool _, _ => rfl
  | .num _, _ => rfl
  | .str _, _ => rfl
  | .arr _, h => toJson_arr.mpr ⟨_, toItems_ofItems h, rfl, rfl⟩
  | .obj _, h => toJson_obj.mpr ⟨_, toMembers_ofMembers h.2 h.1, rfl, rfl⟩

theorem toItems_ofItems : ∀ {js : List Json}, Json.TidyItems js → toItems (ofItems js) = .ok js
  | [], _ => rfl
  | j :: js, h => by rw [ofItems, toItems, toJson_ofJson h.1, toItems_ofItems h.2]

theorem toMembers_ofMembers : ∀ {ms done : List (String × Json)}, Json.TidyMembers ms →
    ((done ++ ms).map Prod.fst).Nodup → toMembers (ofMembers ms) done = .ok (done ++ ms)
  | [], done, _, _ => by rw [ofMembers, toMembers, List.append_nil]
  | (key, value) :: ms, done, h, hkeys => by
      have hnew : key ∉ done.map Prod.fst := by
        rw [List.map_append, List.nodup_append] at hkeys
        intro hmem
        exact hkeys.2.2 key hmem key (by simp) rfl
      have hnext : ((done ++ [(key, value)] ++ ms).map Prod.fst).Nodup := by
        simpa [List.append_assoc] using hkeys
      rw [ofMembers, toMembers, toJson_ofJson h.1]
      dsimp only
      rw [Json.put_new hnew, toMembers_ofMembers h.2 hnext, List.append_assoc,
        List.singleton_append]

end

theorem stop_ofJson (j : Json) : (ofJson j).stop = none := by
  cases j <;> rfl

end Scan

theorem Decoder.ofJson_eq_ok {d : Decoder α} {j : Json} {a : α} :
    d.ofJson j = .ok a ↔ d (Scan.ofJson j) = .ok a := by
  rw [Decoder.ofJson]
  cases d (Scan.ofJson j) <;> simp [Except.mapError]

theorem Decoder.ofJson_ok {d : Decoder α} {j : Json} {a : α} (h : d (Scan.ofJson j) = .ok a) :
    d.ofJson j = .ok a := Decoder.ofJson_eq_ok.mpr h

/-- Whatever the decoder gives has a property. -/
def Decoder.Yields (d : Decoder α) (P : α → Prop) : Prop := ∀ ⦃scan a⦄, d scan = .ok a → P a

/-- Whatever the description gives, of an object or of an array, has a property. -/
def Reading.Yields (r : Reading α) (P : α → Prop) : Prop :=
  ∀ ⦃inArray fields a⦄, r.read inArray fields = .ok a → P a

namespace Decoder.Yields

variable {d : Decoder α} {P : α → Prop} {Q : β → Prop}

theorem any : d.Yields fun _ => True := fun _ _ _ => trivial

theorem whole {low high : Int} : (Decode.whole low high).Yields fun n => low ≤ n ∧ n ≤ high := by
  intro scan n h
  cases scan with
  | num m =>
      cases m with
      | whole m =>
          rw [Decode.whole] at h
          split_ifs at h with hrange
          cases h
          exact hrange
      | double => cases h
  | _ => cases h

theorem via {f : α → Option β} (hd : d.Yields P) (hf : ∀ a b, P a → f a = some b → Q b) :
    (Decode.via d f).Yields Q := by
  intro scan b h
  rw [Decode.via] at h
  split at h
  · cases h
  · next a ha =>
      split at h
      · next b' hb =>
          cases h
          exact hf a b (hd ha) hb
      · cases h

theorem items (hd : d.Yields P) {scans : List Scan} {as : List α}
    (h : Decode.items d scans = .ok as) : ∀ a ∈ as, P a := by
  induction scans generalizing as with
  | nil =>
      cases h
      simp
  | cons scan scans ih =>
      rw [Decode.items] at h
      split at h
      · cases h
      · next a ha =>
          cases hrest : Decode.items d scans with
          | error e => simp [hrest, Except.map] at h
          | ok rest =>
              rw [hrest] at h
              cases h
              simpa using ⟨hd ha, ih hrest⟩

theorem list (hd : d.Yields P) : (Decode.list d).Yields fun as => ∀ a ∈ as, P a := by
  intro scan as h
  cases scan with
  | arr scans stopped =>
      cases hitems : Decode.items d scans with
      | error e => simp [Decode.list, hitems] at h
      | ok as' => cases stopped <;> simp_all [Decode.list, items hd hitems]
  | _ => cases h

theorem nullable (hd : d.Yields P) : (Decode.nullable d).Yields fun o => ∀ a ∈ o, P a := by
  intro scan o h
  rw [Decode.nullable.eq_def] at h
  split at h
  · cases h
    simp
  · cases hscan : d scan with
    | error e => simp [hscan, Except.map] at h
    | ok a =>
        rw [hscan] at h
        cases h
        simpa using hd hscan

/-- A document that is kept where it may be null has no repeated names and is not null. -/
theorem json : (Decode.nullable Decode.json).Yields fun o => ∀ j ∈ o, j ≠ .null ∧ j.Tidy := by
  intro scan o h j hj
  cases hj
  have hscan : scan ≠ .null := by
    rintro rfl
    cases h
  have hmap : (Decode.json scan).map some = .ok (some j) := by
    cases scan <;> first | exact h | contradiction
  cases hjson : Decode.json scan with
  | error e => simp [hjson, Except.map] at hmap
  | ok j' =>
      rw [hjson] at hmap
      cases hmap
      exact ⟨fun hnull => hscan (Scan.eq_null_of_toJson (hnull ▸ hjson)),
        Scan.tidy_of_toJson hjson⟩

end Decoder.Yields

namespace Reading

theorem conclude_ok {result : Except Problem α} {stopped : Option DecodeError} {a : α}
    (h : conclude stopped result = .ok a) : result = .ok a := by
  cases result with
  | error p => cases p <;> cases h
  | ok b =>
      cases stopped with
      | none =>
          cases h
          rfl
      | some e => cases h

theorem against_ok {result : Except Problem α} {other : Option Problem} {a : α}
    (h : against other result = .ok a) : result = .ok a := by
  cases other with
  | none => exact h
  | some p => cases result <;> cases h

theorem read_seq (f : Reading (α → β)) (r : Reading α) (inArray : Bool)
    (fields : String → Occurrences) : (f <*> r).read inArray fields =
      match f.read inArray fields, r.read inArray fields with
      | .ok g, .ok a => .ok (g a)
      | .error p, .error q => .error (p.first q)
      | .error p, .ok _ => .error p
      | .ok _, .error q => .error q := rfl

end Reading

namespace Reading.Yields

variable {d : Decoder α} {r : Reading α} {f : Reading (α → β)} {P : α → Prop} {Q : β → Prop}
  {name : String}

theorem pure {a : α} (ha : P a) : (Pure.pure a : Reading α).Yields P := fun _ _ _ h => by
  cases h
  exact ha

theorem seq (hf : f.Yields fun g => ∀ a, P a → Q (g a)) (hr : r.Yields P) :
    (f <*> r).Yields Q := by
  intro inArray fields b h
  rw [read_seq] at h
  split at h
  · next g a hg ha =>
      cases h
      exact hf hg a (hr ha)
  · cases h
  · cases h
  · cases h

theorem map {g : α → β} (hg : ∀ a, P a → Q (g a)) (hr : r.Yields P) : (g <$> r).Yields Q :=
  seq (pure hg) hr

theorem last? (hd : d.Yields P) {places : Occurrences} {o : Option α}
    (h : Reading.last? d places = .ok o) : ∀ a ∈ o, P a := by
  induction places generalizing o with
  | nil =>
      cases h
      simp
  | cons place places ih =>
      rw [Reading.last?] at h
      split at h
      · cases h
      · cases h
      · next a later ha hlater =>
          cases h
          cases later with
          | none => simpa using hd ha
          | some b => simpa using ih hlater

theorem field (hd : d.Yields P) {absent : Bool → Except Problem α}
    (habsent : ∀ b a, absent b = .ok a → P a) : (Reading.field name d absent).Yields P := by
  intro inArray fields a h
  rw [Reading.field] at h
  dsimp only at h
  split at h
  · cases h
  · next a' hlast =>
      cases h
      exact last? hd hlast a rfl
  · exact habsent _ _ h

theorem required (hd : d.Yields P) : (Reading.required name d).Yields P :=
  field hd nofun

theorem defaulted (hd : d.Yields P) {default : α} (hdefault : P default) :
    (Reading.defaulted name d default).Yields P :=
  field hd fun _ _ h => by
    cases h
    exact hdefault

theorem optional (hd : d.Yields P) :
    (Reading.optional name d).Yields fun o => ∀ a ∈ o, P a :=
  defaulted hd.nullable (by simp)

theorem orNull {P : Option α → Prop} (hd : (Decode.nullable d).Yields P) (hnone : P none) :
    (Reading.nullable name d).Yields P :=
  field hd fun b o h => by
    cases b <;> cases h
    exact hnone

theorem nullable (hd : d.Yields P) :
    (Reading.nullable name d).Yields fun o => ∀ a ∈ o, P a :=
  orNull hd.nullable (by simp)

theorem ofMembers (hr : r.Yields P) {habit : Habit} {members : List (NameScan × Scan)}
    {stopped : Option DecodeError} {a : α} (h : r.ofMembers habit members stopped = .ok a) : P a :=
  hr (against_ok (conclude_ok h))

theorem decode (hr : r.Yields P) : r.decode.Yields P := by
  intro scan a h
  cases scan with
  | obj members stopped => exact hr.ofMembers h
  | arr items stopped => exact hr (against_ok (conclude_ok h))
  | _ => cases h

theorem decodeObject (hr : r.Yields P) : r.decodeObject.Yields P := by
  intro scan a h
  cases scan with
  | obj members stopped => exact hr.ofMembers h
  | _ => cases h

end Reading.Yields

namespace Json

variable {name : String} {v : Option Json} {fields : List (String × Option Json)}

/-- The members of a record that are there. -/
def present (fields : List (String × Option Json)) : List (String × Json) :=
  fields.filterMap fun (k, v) => v.map (k, ·)

theorem keys_present : ((present fields).map Prod.fst).Sublist (fields.map Prod.fst) := by
  induction fields with
  | nil => exact List.Sublist.slnil
  | cons field fields ih =>
      obtain ⟨k, v⟩ := field
      cases v with
      | none => exact ih.cons _
      | some j => exact ih.cons_cons k

theorem lookup_eq_none {ms : List (String × Json)} (h : name ∉ ms.map Prod.fst) :
    lookup name ms = none := by
  induction ms with
  | nil => rfl
  | cons m ms ih =>
      simp only [List.map_cons, List.mem_cons, not_or] at h
      rw [lookup, if_neg (Ne.symm h.1), ih h.2]

theorem lookup_present (hkeys : (fields.map Prod.fst).Nodup) (hmem : (name, v) ∈ fields) :
    lookup name (present fields) = v := by
  induction fields with
  | nil => cases hmem
  | cons field fields ih =>
      obtain ⟨k, w⟩ := field
      obtain ⟨hk, hrest⟩ := List.nodup_cons.mp hkeys
      rcases List.mem_cons.mp hmem with heq | htail
      · cases heq
        have habsent : lookup name (present fields) = none :=
          lookup_eq_none fun hin => hk (keys_present.subset hin)
        cases v with
        | none => exact habsent
        | some j => exact if_pos rfl
      · have hne : k ≠ name := fun heq => hk (List.mem_map.mpr ⟨(name, v), htail, heq.symm⟩)
        have hfound := ih hrest htail
        cases w with
        | none => exact hfound
        | some j => exact (if_neg hne).trans hfound

end Json

namespace Reading

variable {r : Reading α} {d : Decoder α} {name : String} {a : α}
  {fields : List (String × Option Json)} {ms : List (String × Json)}

/-- The description gives `a` of an object with these members, if their names are distinct. -/
def Gives (r : Reading α) (fields : List (String × Option Json)) (a : α) : Prop :=
  (fields.map Prod.fst).Nodup →
    r.read false (fun name => occurrences name 0 (Scan.ofMembers (Json.present fields))) = .ok a

theorem occurrences_ofMembers (name : String) (hkeys : (ms.map Prod.fst).Nodup) (place : Nat) :
    ∃ i, occurrences name place (Scan.ofMembers ms) =
      (Json.lookup name ms).toList.map fun j => (i, Scan.ofJson j) := by
  induction ms generalizing place with
  | nil => exact ⟨0, rfl⟩
  | cons m ms ih =>
      obtain ⟨k, j⟩ := m
      obtain ⟨hk, hrest⟩ := List.nodup_cons.mp hkeys
      obtain ⟨i, hi⟩ := ih hrest (place + 1)
      rw [Scan.ofMembers, occurrences, Json.lookup]
      by_cases heq : k = name
      · subst heq
        rw [Json.lookup_eq_none hk] at hi
        exact ⟨place, by simp [hi]⟩
      · exact ⟨i, by simp [heq, hi]⟩

theorem Gives.pure (a : α) : (Pure.pure a : Reading α).Gives fields a := fun _ => rfl

theorem Gives.seq {f : Reading (α → β)} {g : α → β} (hf : f.Gives fields g)
    (hr : r.Gives fields a) : (f <*> r).Gives fields (g a) := by
  intro hkeys
  rw [read_seq, hf hkeys, hr hkeys]

theorem Gives.map {g : α → β} (hr : r.Gives fields a) : (g <$> r).Gives fields (g a) :=
  Gives.seq (.pure g) hr

theorem Gives.present {absent : Bool → Except Problem α} (j : Json)
    (hmem : (name, some j) ∈ fields) (hd : d (Scan.ofJson j) = .ok a) :
    (field name d absent).Gives fields a := by
  intro hkeys
  obtain ⟨i, hi⟩ := occurrences_ofMembers name (hkeys.sublist Json.keys_present) 0
  rw [Json.lookup_present hkeys hmem] at hi
  simp [field, hi, last?, hd]

theorem Gives.absent {absent : Bool → Except Problem α} (hmem : (name, none) ∈ fields)
    (habsent : absent false = .ok a) : (field name d absent).Gives fields a := by
  intro hkeys
  obtain ⟨i, hi⟩ := occurrences_ofMembers name (hkeys.sublist Json.keys_present) 0
  rw [Json.lookup_present hkeys hmem] at hi
  simp [field, hi, last?, habsent]

/-- A field that may be null is left out if there is no value. -/
theorem Gives.nullable_map {decoded : β → α} {o : Option β} (encode : β → Json)
    (hmem : (name, o.map encode) ∈ fields)
    (hd : ∀ b ∈ o, Decode.nullable d (Scan.ofJson (encode b)) = .ok (some (decoded b))) :
    (nullable name d).Gives fields (o.map decoded) := by
  cases o with
  | none => exact .absent hmem rfl
  | some b => exact .present (encode b) hmem (hd b rfl)

section Exact

variable {o : Option α} (encode : α → Json) (hmem : (name, o.map encode) ∈ fields)
  (hd : ∀ a ∈ o, Decode.nullable d (Scan.ofJson (encode a)) = .ok (some a))

include hmem hd

theorem Gives.nullable : (nullable name d).Gives fields o := by
  have hgives : (Reading.nullable name d).Gives fields (o.map id) := .nullable_map encode hmem hd
  rwa [Option.map_id] at hgives

theorem Gives.optional : (optional name d).Gives fields o := by
  cases o with
  | none => exact .absent hmem rfl
  | some a => exact .present (encode a) hmem (hd a rfl)

end Exact

/-- A text that may be null is left out if there is none. -/
theorem Gives.nullableText {o : Option String} (hmem : (name, o.map .str) ∈ fields) :
    (Reading.nullable name Decode.string).Gives fields o :=
  .nullable .str hmem fun _ _ => rfl

theorem Gives.optionalText {o : Option String} (hmem : (name, o.map .str) ∈ fields) :
    (Reading.optional name Decode.string).Gives fields o :=
  .optional .str hmem fun _ _ => rfl

theorem oddity_ofMembers {habit : Habit} (hstop : ∀ j, habit.stop (Scan.ofJson j) = none)
    {names seen : List String} {place : Nat} (hkeys : (ms.map Prod.fst).Nodup)
    (hseen : ∀ key ∈ ms.map Prod.fst, key ∉ seen) :
    oddity habit names place seen (Scan.ofMembers ms) = none := by
  induction ms generalizing place seen with
  | nil => rfl
  | cons m ms ih =>
      obtain ⟨k, j⟩ := m
      obtain ⟨hk, hrest⟩ := List.nodup_cons.mp hkeys
      have hnew : k ∉ seen := hseen k (by simp)
      have hold : ∀ key ∈ ms.map Prod.fst, key ∉ seen := fun key hkey =>
        hseen key (List.mem_cons_of_mem _ hkey)
      have hnext : ∀ key ∈ ms.map Prod.fst, key ∉ k :: seen := fun key hkey hin => by
        rcases List.mem_cons.mp hin with rfl | hin
        · exact hk hkey
        · exact hold key hkey hin
      rw [Scan.ofMembers, oddity]
      simp only [hstop, List.contains_eq_mem, hnew, decide_false, Bool.and_false,
        Bool.false_eq_true, if_false]
      split_ifs
      · exact ih hrest hnext
      · exact ih hrest hold

theorem Gives.ofMembers {habit : Habit} (hstop : ∀ j, habit.stop (Scan.ofJson j) = none)
    (hr : r.Gives fields a) (hkeys : (fields.map Prod.fst).Nodup) :
    r.ofMembers habit (Scan.ofMembers (Json.present fields)) none = .ok a := by
  rw [Reading.ofMembers, oddity_ofMembers hstop (hkeys.sublist Json.keys_present) (by simp)]
  exact congrArg (conclude none) (hr hkeys)

theorem Gives.decode (hr : r.Gives fields a) (hkeys : (fields.map Prod.fst).Nodup) :
    r.decode (Scan.ofJson (.record fields)) = .ok a :=
  hr.ofMembers Scan.stop_ofJson hkeys

theorem Gives.decodeObject (hr : r.Gives fields a) (hkeys : (fields.map Prod.fst).Nodup) :
    r.decodeObject (Scan.ofJson (.record fields)) = .ok a :=
  hr.ofMembers Scan.stop_ofJson hkeys

end Reading

namespace Decode

variable {d : Decoder α} {encode : β → Json} {decoded : β → α}

theorem nullable_of_ne {j : Json} {a : α} (hj : j ≠ .null) (hd : d (Scan.ofJson j) = .ok a) :
    nullable d (Scan.ofJson j) = .ok (some a) := by
  have hmap : ∀ {scan : Scan}, scan ≠ .null → nullable d scan = (d scan).map some := by
    intro scan hscan
    cases scan <;> first | rfl | contradiction
  rw [hmap (by cases j <;> simp_all [Scan.ofJson]), hd]
  rfl

theorem list_ofJson {bs : List β} (hd : ∀ b ∈ bs, d (Scan.ofJson (encode b)) = .ok (decoded b)) :
    list d (Scan.ofJson (.arr (bs.map encode))) = .ok (bs.map decoded) := by
  have hitems : items d (Scan.ofItems (bs.map encode)) = .ok (bs.map decoded) := by
    induction bs with
    | nil => rfl
    | cons b bs ih =>
        have hrest := ih fun b' hb' => hd b' (List.mem_cons_of_mem _ hb')
        rw [List.map_cons, Scan.ofItems, items, hd b (by simp)]
        dsimp only
        rw [hrest]
        rfl
  rw [Scan.ofJson, list, hitems]
  simp

theorem list_self {encode : α → Json} {as : List α}
    (hd : ∀ a ∈ as, d (Scan.ofJson (encode a)) = .ok a) :
    list d (Scan.ofJson (.arr (as.map encode))) = .ok as := by
  have hlist : list d (Scan.ofJson (.arr (as.map encode))) = .ok (as.map id) := list_ofJson hd
  rwa [List.map_id] at hlist

theorem whole_int {low high n : Int} (h : low ≤ n ∧ n ≤ high) :
    whole low high (Scan.ofJson (.int n)) = .ok n := if_pos h

end Decode

end RegistryOperator
