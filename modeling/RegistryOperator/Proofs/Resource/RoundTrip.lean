import RegistryOperator.Proofs.Json.Records
import RegistryOperator.Proofs.Time.Rfc3339
import RegistryOperator.Resource.ImageRegistry

/-! The custom resource survives being written and read: what was decoded once is decoded again as
the same spec and status, and is written again as the same document. Spec and status also come back
when they were never read. The metadata comes back up to the fractions of its times, which are not
written. -/

namespace RegistryOperator

/-- A moment that was read has a date. -/
theorem Timestamp.decode_yields : Timestamp.decode.Yields Timestamp.Proper :=
  Decoder.Yields.via (P := fun _ => True) .any fun _ _ _ h => Timestamp.proper_of_ofText? h

theorem Timestamp.decode_text {t : Timestamp} (h : t.Proper) :
    Timestamp.decode (Scan.ofJson (.str t.text)) = .ok t := by
  simp [Timestamp.decode, Decode.via, Decode.string, Scan.ofJson, h.ofText?_text]

theorem Timestamp.decode_textSeconds {t : Timestamp} (h : t.Proper) :
    Timestamp.decode (Scan.ofJson (.str t.textSeconds)) = .ok t.toSeconds := by
  simp [Timestamp.decode, Decode.via, Decode.string, Scan.ofJson, h.ofText?_textSeconds]

namespace StringMap

theorem insertEntry_last {key value : String} {entries : List (String × String)}
    (h : ∀ e ∈ entries, e.1 < key) : insertEntry key value entries = entries ++ [(key, value)] := by
  induction entries with
  | nil => rfl
  | cons e entries ih =>
      have he : e.1 < key := h e (by simp)
      have hne : key ≠ e.1 := fun heq => String.lt_irrefl key (heq ▸ he)
      rw [insertEntry, if_neg (String.lt_asymm he), if_neg hne,
        ih fun e' he' => h e' (List.mem_cons_of_mem _ he'), List.cons_append]

theorem foldl_insert {m : StringMap} {entries : List (String × String)}
    (h : (m.entries ++ entries).Pairwise fun a b => a.1 < b.1) :
    (entries.foldl (fun m (key, value) => m.insert key value) m).entries =
      m.entries ++ entries := by
  induction entries generalizing m with
  | nil => simp
  | cons e entries ih =>
      obtain ⟨key, value⟩ := e
      have hlast : (m.insert key value).entries = m.entries ++ [(key, value)] :=
        insertEntry_last fun e he =>
          (List.pairwise_append.mp h).2.2 e he (key, value) List.mem_cons_self
      rw [List.foldl_cons, ih (by simpa [hlast] using h), hlast, List.append_assoc,
        List.singleton_append]

theorem eq_of_entries {m m' : StringMap} (h : m.entries = m'.entries) : m = m' := by
  cases m
  cases m'
  cases h
  rfl

theorem ofList_entries (m : StringMap) : ofList m.entries = m :=
  eq_of_entries (foldl_insert m.sorted)

theorem members_strings (entries : List (String × String)) :
    Decode.members Decode.string
      (Scan.ofMembers (entries.map fun (key, value) => (key, .str value))) = .ok entries := by
  induction entries with
  | nil => rfl
  | cons e entries ih =>
      rw [List.map_cons, Scan.ofMembers, Decode.members, Scan.ofJson]
      simp only [Decode.string, ih]
      rfl

theorem decode_toJson (m : StringMap) : decode (Scan.ofJson m.toJson) = .ok m := by
  have hdictionary : Decode.dictionary Decode.string (Scan.ofJson m.toJson) = .ok m.entries := by
    simp [toJson, Scan.ofJson, Decode.dictionary, members_strings]
  simp [decode, Decode.via, hdictionary, ofList_entries]

end StringMap

namespace OwnerReference

theorem decode_toJson (r : OwnerReference) :
    reading.decodeObject (Scan.ofJson r.toJson) = .ok r := by
  have htext : ∀ {fields : List (String × Option Json)} {name s : String},
      (name, some (Json.str s)) ∈ fields →
        (Reading.nullable name Decode.string).Gives fields (some s) := fun hmem =>
    .present (.str _) hmem rfl
  refine Reading.Gives.decodeObject ?_ (by simp)
  exact .seq (.seq (.seq (.seq (.seq (.map (htext (by simp)))
    (.nullable .bool (by simp) fun _ _ => rfl)) (.nullable .bool (by simp) fun _ _ => rfl))
    (htext (by simp))) (htext (by simp))) (htext (by simp))

end OwnerReference

namespace ManagedFields

/-- The fields are kept as a document, and the time has a date. -/
structure Proper (m : ManagedFields) : Prop where
  fields : ∀ j ∈ m.fields, j ≠ .null ∧ j.Tidy
  time : ∀ t ∈ m.time, t.Proper

def wholeSeconds (m : ManagedFields) : ManagedFields := { m with time := m.time.map .toSeconds }

theorem toJson_wholeSeconds (m : ManagedFields) : m.wholeSeconds.toJson = m.toJson := by
  simp [toJson, wholeSeconds, Option.map_map, Function.comp_def, Timestamp.textSeconds_toSeconds]

theorem decode_toJson {m : ManagedFields} (h : m.Proper) :
    reading.decodeObject (Scan.ofJson m.toJson) = .ok m.wholeSeconds := by
  refine Reading.Gives.decodeObject ?_ (by simp)
  refine .seq (.seq (.seq (.seq (.seq (.seq (.map (.nullableText (by simp)))
    (.nullableText (by simp))) (.nullable id (by simp) fun j hj => ?_)) (.nullableText (by simp)))
    (.nullableText (by simp))) (.nullableText (by simp)))
    (.nullable_map (fun t => .str t.textSeconds) (by simp) fun t ht => ?_)
  · obtain ⟨hnull, htidy⟩ := h.fields j hj
    exact Decode.nullable_of_ne hnull (Scan.toJson_ofJson htidy)
  · exact Decode.nullable_of_ne nofun (Timestamp.decode_textSeconds (h.time t ht))

theorem decode_yields : reading.decodeObject.Yields Proper := by
  refine Reading.Yields.decodeObject (.seq (.seq (.seq (.seq (.seq (.seq
    (.map ?proper (.nullable .any)) (.nullable .any)) (.orNull .json (by simp))) (.nullable .any))
    (.nullable .any)) (.nullable .any)) (.nullable Timestamp.decode_yields))
  case proper =>
    intro _ _ _ _ fields hfields _ _ _ _ _ _ time htime
    exact ⟨hfields, htime⟩

end ManagedFields

namespace Metadata

/-- The numbers are in the range of their type, the times have dates. -/
structure Proper (m : Metadata) : Prop where
  creationTimestamp : ∀ t ∈ m.creationTimestamp, t.Proper
  deletionGracePeriodSeconds : ∀ n ∈ m.deletionGracePeriodSeconds,
    -2 ^ (63 : ℕ) ≤ n ∧ n ≤ 2 ^ (63 : ℕ) - 1
  deletionTimestamp : ∀ t ∈ m.deletionTimestamp, t.Proper
  generation : ∀ n ∈ m.generation, -2 ^ (63 : ℕ) ≤ n ∧ n ≤ 2 ^ (63 : ℕ) - 1
  managedFields : ∀ fs ∈ m.managedFields, ∀ f ∈ fs, f.Proper

/-- The metadata without the fractions of seconds, which are not written. -/
def wholeSeconds (m : Metadata) : Metadata :=
  { m with
    creationTimestamp := m.creationTimestamp.map .toSeconds
    deletionTimestamp := m.deletionTimestamp.map .toSeconds
    managedFields := m.managedFields.map (·.map .wholeSeconds) }

theorem toJson_wholeSeconds (m : Metadata) : m.wholeSeconds.toJson = m.toJson := by
  simp [toJson, wholeSeconds, Option.map_map, Function.comp_def, Timestamp.textSeconds_toSeconds,
    ManagedFields.toJson_wholeSeconds]

theorem decode_toJson {m : Metadata} (h : m.Proper) :
    decode (Scan.ofJson m.toJson) = .ok m.wholeSeconds := by
  refine Reading.Gives.decodeObject ?_ (by simp)
  refine .seq (.seq (.seq (.seq (.seq (.seq (.seq (.seq (.seq (.seq (.seq (.seq (.seq (.seq (.seq
    (.map (.nullable StringMap.toJson (by simp) fun labels _ => ?annotations))
    (.nullableText (by simp)))
    (.nullable_map (fun t => .str t.textSeconds) (by simp) fun t ht => ?created))
    (.nullable .int (by simp) fun n hn => ?grace))
    (.nullable_map (fun t => .str t.textSeconds) (by simp) fun t ht => ?deleted))
    (.nullable (fun fs => .arr (fs.map .str)) (by simp) fun fs _ => ?finalizers))
    (.nullableText (by simp)))
    (.nullable .int (by simp) fun n hn => ?generation))
    (.nullable StringMap.toJson (by simp) fun labels _ => ?labels))
    (.nullable_map (fun fs => .arr (fs.map ManagedFields.toJson)) (by simp) fun fs hfs => ?managed))
    (.nullableText (by simp))) (.nullableText (by simp)))
    (.nullable (fun rs => .arr (rs.map OwnerReference.toJson)) (by simp) fun rs _ => ?owners))
    (.nullableText (by simp))) (.nullableText (by simp))) (.nullableText (by simp))
  case annotations | labels => exact Decode.nullable_of_ne nofun (StringMap.decode_toJson labels)
  case created =>
      exact Decode.nullable_of_ne nofun (Timestamp.decode_textSeconds (h.creationTimestamp t ht))
  case deleted =>
      exact Decode.nullable_of_ne nofun (Timestamp.decode_textSeconds (h.deletionTimestamp t ht))
  case grace =>
      exact Decode.nullable_of_ne nofun (Decode.whole_int (h.deletionGracePeriodSeconds n hn))
  case generation => exact Decode.nullable_of_ne nofun (Decode.whole_int (h.generation n hn))
  case finalizers => exact Decode.nullable_of_ne nofun (Decode.list_self fun _ _ => rfl)
  case managed =>
      exact Decode.nullable_of_ne nofun
        (Decode.list_ofJson fun f hf => ManagedFields.decode_toJson (h.managedFields fs hfs f hf))
  case owners =>
      exact Decode.nullable_of_ne nofun (Decode.list_self fun r _ => OwnerReference.decode_toJson r)

theorem decode_yields : decode.Yields Proper := by
  refine Reading.Yields.decodeObject (.seq (.seq (.seq (.seq (.seq (.seq (.seq (.seq (.seq (.seq
    (.seq (.seq (.seq (.seq (.seq (.map ?proper (.nullable .any))
    (.nullable .any)) (.nullable Timestamp.decode_yields)) (.nullable .whole))
    (.nullable Timestamp.decode_yields)) (.nullable .any)) (.nullable .any)) (.nullable .whole))
    (.nullable .any)) (.nullable (.list ManagedFields.decode_yields))) (.nullable .any))
    (.nullable .any)) (.nullable .any)) (.nullable .any)) (.nullable .any)) (.nullable .any))
  case proper =>
    intro _ _ _ _ created hcreated grace hgrace deleted hdeleted _ _ _ _ generation hgeneration
      _ _ managed hmanaged _ _ _ _ _ _ _ _ _ _ _ _
    exact ⟨hcreated, hgrace, hdeleted, hgeneration, hmanaged⟩

end Metadata

namespace Condition

/-- The time of the last change has a date. -/
def Proper (c : Condition) : Prop := ∀ t ∈ c.lastTransitionTime, t.Proper

theorem decode_yields : decode.Yields Proper := by
  refine Reading.Yields.decode (.seq (.seq (.seq (.seq (.map ?proper (.required .any))
    (.required .any)) (.optional .any)) (.optional .any)) (.optional Timestamp.decode_yields))
  case proper =>
    intro _ _ _ _ _ _ _ _ time htime
    exact htime

theorem decode_toJson {c : Condition} (h : c.Proper) :
    decode (Scan.ofJson c.toJson) = .ok c := by
  obtain ⟨type, status, reason, message, time⟩ := c
  refine Reading.Gives.decode ?_ (by simp)
  refine .seq (.seq (.seq (.seq (.map (.present (.str type) (by simp) rfl))
    (.present (.str status.name) (by simp) ?status)) (.optionalText (by simp)))
    (.optionalText (by simp)))
    (.optional (fun t : Timestamp => .str t.text) (by simp) fun t ht => ?time)
  case status => cases status <;> rfl
  case time => exact Decode.nullable_of_ne nofun (Timestamp.decode_text (h t ht))

end Condition

namespace RegistryStorage

theorem decode_toJson (s : RegistryStorage) : decode (Scan.ofJson s.toJson) = .ok s := by
  refine Reading.Gives.decode ?_ (by simp)
  refine .seq (.seq (.map (.optional (fun _ => .obj []) (by simp) fun _ _ => rfl))
    (.optional (fun p => .obj [("claim", .str p.claim)]) (by simp) fun p _ => ?pvc))
    (.optional (fun b => .obj [("bucket", .str b.bucket), ("region", .str b.region)]) (by simp)
      fun b _ => ?s3)
  case pvc =>
      have hpvc : Reading.Gives (PvcStorage.mk <$> .required "claim" Decode.string)
          [("claim", some (.str p.claim))] p := .map (.present (.str p.claim) (by simp) rfl)
      exact Decode.nullable_of_ne nofun (hpvc.decode (by simp))
  case s3 =>
      have hs3 : Reading.Gives (S3Storage.mk <$> .required "bucket" Decode.string
            <*> .required "region" Decode.string : Reading S3Storage)
          [("bucket", some (.str b.bucket)), ("region", some (.str b.region))]
          (S3Storage.mk b.bucket b.region) :=
        .seq (.map (.present (.str b.bucket) (by simp) rfl))
          (.present (.str b.region) (by simp) rfl)
      exact Decode.nullable_of_ne nofun (hs3.decode (by simp))

end RegistryStorage

namespace ManagementState

/-- The words that are known are not kept as unknown ones. -/
def Proper (m : ManagementState) : Prop :=
  ∀ word, m = .unknown word → word ≠ "Managed" ∧ word ≠ "Removed" ∧ word ≠ "Unmanaged"

theorem ofWord_proper (s : String) : (ofWord s).Proper := by
  intro word hword
  rw [ofWord] at hword
  split_ifs at hword with hmanaged hremoved hunmanaged
  cases hword
  exact ⟨hmanaged, hremoved, hunmanaged⟩

theorem ofWord_word {m : ManagementState} (h : m.Proper) : ofWord m.word = m := by
  cases m with
  | unknown word =>
      obtain ⟨hmanaged, hremoved, hunmanaged⟩ := h word rfl
      simp [ManagementState.word, ofWord, hmanaged, hremoved, hunmanaged]
  | _ => rfl

theorem decode_yields : decode.Yields Proper := by
  intro scan m h
  cases scan with
  | str s =>
      cases h
      exact ofWord_proper s
  | _ => cases h

theorem decode_word {m : ManagementState} (h : m.Proper) :
    decode (Scan.ofJson (.str m.word)) = .ok m := congrArg Except.ok (ofWord_word h)

end ManagementState

namespace RegistrySpec

/-- The number of replicas is in the range of its type, and the management state is written in one
way only. -/
structure Proper (s : RegistrySpec) : Prop where
  replicas : -2 ^ (31 : ℕ) ≤ s.replicas ∧ s.replicas ≤ 2 ^ (31 : ℕ) - 1
  managementState : s.managementState.Proper

theorem decode_yields : decode.Yields Proper := by
  refine Reading.Yields.decode (.seq (.seq (.seq
    (.map ?proper (.required ManagementState.decode_yields)) (.required .whole))
    (.defaulted .any trivial)) (.optional .any))
  case proper =>
    intro state hstate replicas hreplicas _ _ _ _
    exact ⟨hreplicas, hstate⟩

theorem decode_toJson {s : RegistrySpec} (h : s.Proper) :
    decode (Scan.ofJson s.toJson) = .ok s := by
  refine Reading.Gives.decode ?_ (by simp)
  exact .seq (.seq (.seq
    (.map (.present (.str s.managementState.word) (by simp)
      (ManagementState.decode_word h.managementState)))
    (.present (.int s.replicas) (by simp) (Decode.whole_int h.replicas)))
    (.present s.storage.toJson (by simp) (RegistryStorage.decode_toJson s.storage)))
    (.optionalText (by simp))

end RegistrySpec

namespace RegistryStatus

/-- The numbers are in the ranges of their types, the times have dates. -/
structure Proper (s : RegistryStatus) : Prop where
  observedGeneration :
    -2 ^ (63 : ℕ) ≤ s.observedGeneration ∧ s.observedGeneration ≤ 2 ^ (63 : ℕ) - 1
  readyReplicas : -2 ^ (31 : ℕ) ≤ s.readyReplicas ∧ s.readyReplicas ≤ 2 ^ (31 : ℕ) - 1
  conditions : ∀ c ∈ s.conditions, c.Proper

theorem decode_yields : decode.Yields Proper := by
  refine Reading.Yields.decode (.seq (.seq (.map ?proper (.defaulted .whole (by decide)))
    (.defaulted .whole (by decide))) (.defaulted (.list Condition.decode_yields) (by simp)))
  case proper =>
    intro generation hgeneration replicas hreplicas conditions hconditions
    exact ⟨hgeneration, hreplicas, hconditions⟩

theorem decode_toJson {s : RegistryStatus} (h : s.Proper) :
    decode (Scan.ofJson s.toJson) = .ok s := by
  have hgives : reading.Gives [("observedGeneration", some (.int s.observedGeneration)),
      ("readyReplicas", some (.int s.readyReplicas)),
      ("conditions", some (.arr (s.conditions.map Condition.toJson)))] s :=
    .seq (.seq (.map (.present _ (by simp) (Decode.whole_int h.observedGeneration)))
      (.present _ (by simp) (Decode.whole_int h.readyReplicas)))
      (.present (.arr (s.conditions.map Condition.toJson)) (by simp)
        (Decode.list_self fun c hc => Condition.decode_toJson (h.conditions c hc)))
  exact hgives.decode (by simp)

end RegistryStatus

namespace ImageRegistry

structure Proper (r : ImageRegistry) : Prop where
  metadata : r.metadata.Proper
  spec : r.spec.Proper
  status : ∀ s ∈ r.status, s.Proper

def wholeSeconds (r : ImageRegistry) : ImageRegistry :=
  { r with metadata := r.metadata.wholeSeconds }

theorem toJson_wholeSeconds (r : ImageRegistry) : r.wholeSeconds.toJson = r.toJson := by
  simp [toJson, wholeSeconds, Metadata.toJson_wholeSeconds]

theorem decode_yields : decode.Yields Proper := by
  refine Reading.Yields.decode (.seq (.seq (.map ?proper (.required Metadata.decode_yields))
    (.required RegistrySpec.decode_yields)) (.nullable RegistryStatus.decode_yields))
  case proper =>
    intro metadata hmetadata spec hspec status hstatus
    exact ⟨hmetadata, hspec, hstatus⟩

theorem decode_toJson {r : ImageRegistry} (h : r.Proper) :
    decode (Scan.ofJson r.toJson) = .ok r.wholeSeconds := by
  refine Reading.Gives.decode ?_ (by simp)
  exact .seq (.seq
    (.map (.present r.metadata.toJson (by simp) (Metadata.decode_toJson h.metadata)))
    (.present r.spec.toJson (by simp) (RegistrySpec.decode_toJson h.spec)))
    (.nullable RegistryStatus.toJson (by simp) fun s hs =>
      Decode.nullable_of_ne nofun (RegistryStatus.decode_toJson (h.status s hs)))

/-- **What was read of a resource, from whatever document, is read again from what is written of it,
with the same spec and status, and is written again as the same document.** A spec or a status that
was never read comes back as well: its numbers are in the ranges of their types, its times have
dates and the word of its management state is not kept as unknown if it is known. -/
theorem survives_rewriting :
    (∀ scan r, decode scan = .ok r → ∃ again, decode.ofJson r.toJson = .ok again ∧
      again.spec = r.spec ∧ again.status = r.status ∧ again.toJson = r.toJson) ∧
    (∀ spec : RegistrySpec, spec.Proper → RegistrySpec.decode.ofJson spec.toJson = .ok spec) ∧
    ∀ status : RegistryStatus, status.Proper →
      RegistryStatus.decode.ofJson status.toJson = .ok status := by
  refine ⟨fun scan r hr => ?_, fun spec hspec => ?_, fun status hstatus => ?_⟩
  · have hagain := decode_toJson (decode_yields hr)
    exact ⟨r.wholeSeconds, Decoder.ofJson_ok hagain, rfl, rfl, toJson_wholeSeconds r⟩
  · exact Decoder.ofJson_ok (RegistrySpec.decode_toJson hspec)
  · exact Decoder.ofJson_ok (RegistryStatus.decode_toJson hstatus)

/-- The resource may be an array of arrays, and a time may be a leap second. -/
theorem survives_rewriting_arrays :
    (∃ r again, decode (.ofJson (.arr [.obj [],
        .arr [.str "Paused", .int 2, .arr [.arr [], .null, .null], .null], .null])) = .ok r ∧
      decode.ofJson r.toJson = .ok again ∧ again.spec = r.spec ∧ again.status = r.status ∧
      again.toJson = r.toJson) ∧
    RegistrySpec.decode.ofJson (RegistrySpec.toJson ⟨.unknown "Paused", 2, {}, some "Debug"⟩) =
      .ok ⟨.unknown "Paused", 2, {}, some "Debug"⟩ ∧
    RegistryStatus.decode.ofJson (RegistryStatus.toJson
        ⟨3, 1, [⟨"Available", .yes, none, none, some ⟨1483228799, 1500000000⟩⟩]⟩) =
      .ok ⟨3, 1, [⟨"Available", .yes, none, none, some ⟨1483228799, 1500000000⟩⟩]⟩ := by
  obtain ⟨hread, hspec, hstatus⟩ := survives_rewriting
  refine ⟨?_, hspec _ ⟨by decide, fun word hword => ?_⟩, hstatus _ ⟨by decide, by decide, ?_⟩⟩
  · obtain ⟨again, hagain⟩ := hread (.ofJson (.arr [.obj [],
      .arr [.str "Paused", .int 2, .arr [.arr [], .null, .null], .null], .null])) _ rfl
    exact ⟨_, again, rfl, hagain⟩
  · cases hword
    decide
  · intro c hc t ht
    cases List.mem_singleton.mp hc
    cases ht
    exact ⟨by decide, by decide, by decide⟩

end ImageRegistry

end RegistryOperator
