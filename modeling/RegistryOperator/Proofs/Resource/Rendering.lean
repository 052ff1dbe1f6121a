import Mathlib.Tactic.SplitIfs
import RegistryOperator.Proofs.Json.Records
import RegistryOperator.Resource.Manifest
import RegistryOperator.Resource.Validation

/-! What a deployment shows of its spec. A spec without a fault that has a storage backend has one
backend only, and the deployment shows which: its volume, or its variables for a bucket, can be read
back as the storage of the spec. So no change of the replicas, the storage or the log level of such
a spec is lost on the way to the cluster, and nothing else of the spec gets there. -/

namespace RegistryOperator

namespace Json

/-- What stands in a document under one name after the other. -/
def at? : List String → Json → Option Json
  | [], j => some j
  | key :: path, j => (j.get? key).bind (at? path)

theorem get?_record {fields : List (String × Option Json)} {name : String} {v : Option Json}
    (hkeys : (fields.map Prod.fst).Nodup) (hmem : (name, v) ∈ fields) :
    (record fields).get? name = v := lookup_present hkeys hmem

end Json

namespace RegistrySpec

variable {s : RegistrySpec}

theorem fault?_of_verify (h : s.verify = .ok ()) : s.fault? = none := by
  unfold verify at h
  split at h
  · cases h
  · assumption

theorem backends_le_of_verify (h : s.verify = .ok ()) : s.storage.backends ≤ 1 := by
  have hfault := fault?_of_verify h
  unfold fault? at hfault
  split_ifs at hfault with hreplicas hbackends
  exact Nat.le_of_not_lt hbackends

end RegistrySpec

/-- Storage with at most one backend that has one is one of three. -/
theorem RegistryStorage.single {s : RegistryStorage} (hone : s.backends ≤ 1)
    (hconfigured : s.isConfigured = true) :
    s = { emptyDir := some {} } ∨ (∃ p, s = { pvc := some p }) ∨ ∃ b, s = { s3 := some b } := by
  obtain ⟨emptyDir, pvc, s3⟩ := s
  cases emptyDir <;> cases pvc <;> cases s3 <;>
    simp_all [RegistryStorage.backends, RegistryStorage.isConfigured]

/-- The storage that a volume stands for, with no other backend beside it. -/
def VolumeSource.storage : VolumeSource → RegistryStorage
  | .emptyDir => { emptyDir := some {} }
  | .claim name => { pvc := some ⟨name⟩ }

/-- The values that an environment has for a variable. -/
def EnvVar.values (name : String) (env : List EnvVar) : List String :=
  (env.filter (·.name = name)).map (·.value)

theorem EnvVar.values_append (name : String) (env env' : List EnvVar) :
    values name (env ++ env') = values name env ++ values name env' := by
  rw [values, List.filter_append, List.map_append]
  rfl

namespace RegistryDeployment

variable {d d' : RegistryDeployment}

/-! ### The document -/

def envVarJson (e : EnvVar) : Json := .obj [("name", .str e.name), ("value", .str e.value)]

def mountJson (m : VolumeMount) : Json := .obj [("mountPath", .str m.path), ("name", .str m.name)]

theorem envVarJson_injective : Function.Injective envVarJson := by
  rintro ⟨name, value⟩ ⟨name', value'⟩ h
  simpa [envVarJson] using h

theorem mountJson_injective : Function.Injective mountJson := by
  rintro ⟨name, path⟩ ⟨name', path'⟩ h
  simpa [mountJson, and_comm] using h

theorem volumeJson_injective : Function.Injective volumeJson := by
  rintro ⟨name, source⟩ ⟨name', source'⟩ h
  cases source <;> cases source' <;> simp_all [volumeJson]

/-- The container shows its variables, its image and what is mounted. -/
theorem containerJson_get? (d : RegistryDeployment) :
    d.containerJson.get? "env" = some (.arr (d.env.map envVarJson)) ∧
    d.containerJson.get? "image" = some (.str d.image) ∧
    d.containerJson.get? "volumeMounts" = d.mount.map fun m => .arr [mountJson m] := by
  refine ⟨?_, ?_, ?_⟩
  all_goals exact Json.get?_record (by simp) (by simp [envVarJson, mountJson])

/-- What the document says of each pod. -/
def podJson (d : RegistryDeployment) : Json :=
  .record [("containers", some (.arr [d.containerJson])),
    ("volumes", d.volume.map fun v => .arr [volumeJson v])]

theorem podJson_get? (d : RegistryDeployment) :
    d.podJson.get? "containers" = some (.arr [d.containerJson]) ∧
    d.podJson.get? "volumes" = d.volume.map fun v => .arr [volumeJson v] := by
  refine ⟨?_, ?_⟩
  all_goals exact Json.get?_record (by simp) (by simp)

/-- The document shows where the pods live, how many there are, and what is in each. -/
theorem toJson_at? (d : RegistryDeployment) :
    d.toJson.at? ["metadata", "namespace"] = some (.str d.ns) ∧
    d.toJson.at? ["spec", "replicas"] = some (.int d.replicas) ∧
    d.toJson.at? ["spec", "template", "spec"] = some d.podJson := by
  refine ⟨?_, ?_, ?_⟩
  all_goals simp [toJson, podJson, Json.at?, Json.get?, Json.lookup]

theorem containerJson_inj (h : d.containerJson = d'.containerJson) :
    d.env = d'.env ∧ d.image = d'.image ∧ d.mount = d'.mount := by
  obtain ⟨henv, himage, hmount⟩ := d.containerJson_get?
  obtain ⟨henv', himage', hmount'⟩ := d'.containerJson_get?
  rw [h, henv', Option.some.injEq, Json.arr.injEq] at henv
  rw [h, himage', Option.some.injEq, Json.str.injEq] at himage
  rw [h, hmount'] at hmount
  have hmounts : Function.Injective fun m => Json.arr [mountJson m] := by
    intro m m' heq
    exact mountJson_injective (List.head_eq_of_cons_eq (Json.arr.inj heq))
  exact ⟨(envVarJson_injective.list_map henv).symm, himage.symm,
    (Option.map_injective hmounts hmount).symm⟩

theorem toJson_injective (h : d.toJson = d'.toJson) : d = d' := by
  obtain ⟨hns, hreplicas, hpod⟩ := d.toJson_at?
  obtain ⟨hns', hreplicas', hpod'⟩ := d'.toJson_at?
  rw [h, hns', Option.some.injEq, Json.str.injEq] at hns
  rw [h, hreplicas', Option.some.injEq] at hreplicas
  rw [h, hpod', Option.some.injEq] at hpod
  obtain ⟨hcontainers, hvolumes⟩ := d.podJson_get?
  obtain ⟨hcontainers', hvolumes'⟩ := d'.podJson_get?
  rw [← hpod, hcontainers', Option.some.injEq, Json.arr.injEq] at hcontainers
  rw [← hpod, hvolumes'] at hvolumes
  obtain ⟨henv, himage, hmount⟩ := containerJson_inj (List.head_eq_of_cons_eq hcontainers)
  have hvolume : Function.Injective fun v => Json.arr [volumeJson v] := by
    intro v v' heq
    exact volumeJson_injective (List.head_eq_of_cons_eq (Json.arr.inj heq))
  have hvolume := Option.map_injective hvolume hvolumes
  obtain ⟨ns, image, replicas, env, volume, mount⟩ := d
  obtain ⟨ns', image', replicas', env', volume', mount'⟩ := d'
  simp_all [Json.int]

/-! ### The storage -/

/-- The deployment shows this storage. -/
structure Shows (d : RegistryDeployment) (s : RegistryStorage) : Prop where
  /-- There is a volume unless the images are in a bucket. -/
  volume_iff : d.volume.isSome ↔ s.s3 = none
  /-- The volume is the backend. -/
  source : ∀ v ∈ d.volume, s = v.source.storage
  /-- The volume is mounted where the registry looks for its files. -/
  mount : ∀ v ∈ d.volume, ∃ path, d.mount = some ⟨v.name, path⟩ ∧
    EnvVar.values "REGISTRY_STORAGE" d.env = ["filesystem"] ∧
    EnvVar.values "REGISTRY_STORAGE_FILESYSTEM_ROOTDIRECTORY" d.env = [path]
  /-- The registry is told of the bucket, and nothing is mounted. -/
  bucket : ∀ b ∈ s.s3, s = { s3 := some b } ∧ d.mount = none ∧
    EnvVar.values "REGISTRY_STORAGE" d.env = ["s3"] ∧
    EnvVar.values "REGISTRY_STORAGE_S3_BUCKET" d.env = [b.bucket] ∧
    EnvVar.values "REGISTRY_STORAGE_S3_REGION" d.env = [b.region]

theorem Shows.exists_bucket {s : RegistryStorage} (h : d.Shows s) (hvolume : d.volume = none) :
    ∃ b, s.s3 = some b := by
  refine Option.ne_none_iff_exists'.mp fun hs3 => ?_
  have hsome := h.volume_iff.mpr hs3
  rw [hvolume] at hsome
  cases hsome

/-- A deployment shows one storage only. -/
theorem Shows.unique {s s' : RegistryStorage} (h : d.Shows s) (h' : d.Shows s') : s = s' := by
  cases hvolume : d.volume with
  | some v => exact (h.source v hvolume).trans (h'.source v hvolume).symm
  | none =>
      obtain ⟨⟨bucket, region⟩, hb⟩ := h.exists_bucket hvolume
      obtain ⟨⟨bucket', region'⟩, hb'⟩ := h'.exists_bucket hvolume
      obtain ⟨heq, _, _, hname, hregion⟩ := h.bucket _ hb
      obtain ⟨heq', _, _, hname', hregion'⟩ := h'.bucket _ hb'
      have hname : bucket = bucket' := List.head_eq_of_cons_eq (hname.symm.trans hname')
      have hregion : region = region' := List.head_eq_of_cons_eq (hregion.symm.trans hregion')
      rw [heq, heq', hname, hregion]

/-! ### What is rendered -/

section

variable {s : RegistrySpec} {ns image : String}

/-- The variables beside those of the storage. -/
def plainEnv (s : RegistrySpec) : List EnvVar :=
  ⟨"REGISTRY_HTTP_ADDR", ":" ++ toString registryPort⟩ ::
    s.logLevel.toList.map fun level => ⟨"REGISTRY_LOG_LEVEL", level⟩

theorem ofSpec_of_configured (hconfigured : s.storage.isConfigured = true) :
    ofSpec s ns image = .ok
      { ns, image
        replicas := s.replicas
        env := (storageConfig s.storage).1 ++ plainEnv s
        volume := (storageConfig s.storage).2
        mount := (storageConfig s.storage).2.map fun v => ⟨v.name, storagePath⟩ } := by
  rw [ofSpec, if_pos hconfigured]
  rfl

theorem values_plainEnv {name : String} (haddress : name ≠ "REGISTRY_HTTP_ADDR")
    (hlevel : name ≠ "REGISTRY_LOG_LEVEL") : EnvVar.values name (plainEnv s) = [] := by
  cases hlogLevel : s.logLevel <;>
    simp [EnvVar.values, plainEnv, hlogLevel, haddress.symm, hlevel.symm]

/-- The number of pods and the log level are those of the spec. No variable of a storage is called
like that of the log level. -/
theorem replicas_and_logLevel (hconfigured : s.storage.isConfigured = true)
    (h : ofSpec s ns image = .ok d) :
    d.replicas = s.replicas ∧ EnvVar.values "REGISTRY_LOG_LEVEL" d.env = s.logLevel.toList := by
  rw [ofSpec_of_configured hconfigured] at h
  cases h
  refine ⟨rfl, ?_⟩
  cases hs3 : s.storage.s3 <;> cases hlogLevel : s.logLevel <;>
    simp [EnvVar.values, storageConfig, plainEnv, hs3, hlogLevel]

theorem shows_volume (source : VolumeSource) (hvolume : d.volume = some ⟨volumeName, source⟩)
    (hmount : d.mount = some ⟨volumeName, storagePath⟩)
    (henv : d.env = [⟨"REGISTRY_STORAGE", "filesystem"⟩,
      ⟨"REGISTRY_STORAGE_FILESYSTEM_ROOTDIRECTORY", storagePath⟩] ++ plainEnv s) :
    d.Shows source.storage := by
  have hs3 : source.storage.s3 = none := by cases source <;> rfl
  refine ⟨by simp [hvolume, hs3], ?_, ?_, ?_⟩
  · intro v hv
    cases hvolume.symm.trans hv
    rfl
  · intro v hv
    cases hvolume.symm.trans hv
    refine ⟨storagePath, hmount, ?_, ?_⟩
    all_goals rw [henv, EnvVar.values_append, values_plainEnv (by simp) (by simp)]
    all_goals simp [EnvVar.values]
  · intro b hb
    rw [hs3] at hb
    cases hb

theorem shows_bucket {b : S3Storage} (hvolume : d.volume = none) (hmount : d.mount = none)
    (henv : d.env = [⟨"REGISTRY_STORAGE", "s3"⟩, ⟨"REGISTRY_STORAGE_S3_BUCKET", b.bucket⟩,
      ⟨"REGISTRY_STORAGE_S3_REGION", b.region⟩] ++ plainEnv s) : d.Shows { s3 := some b } := by
  refine ⟨by simp [hvolume], ?_, ?_, ?_⟩
  · intro v hv
    rw [hvolume] at hv
    cases hv
  · intro v hv
    rw [hvolume] at hv
    cases hv
  · rintro b' ⟨⟩
    refine ⟨rfl, hmount, ?_, ?_, ?_⟩
    all_goals rw [henv, EnvVar.values_append, values_plainEnv (by simp) (by simp)]
    all_goals simp [EnvVar.values]

/-- The one backend of a spec without a fault is the one that its deployment shows. -/
theorem shows_storage (hverified : s.verify = .ok ()) (hconfigured : s.storage.isConfigured = true)
    (h : ofSpec s ns image = .ok d) : d.Shows s.storage := by
  rw [ofSpec_of_configured hconfigured] at h
  cases h
  rcases RegistryStorage.single (RegistrySpec.backends_le_of_verify hverified) hconfigured with
    heq | ⟨p, heq⟩ | ⟨b, heq⟩
  · rw [heq]
    exact shows_volume .emptyDir rfl rfl rfl
  · rw [heq]
    exact shows_volume (.claim p.claim) rfl rfl rfl
  · rw [heq]
    exact shows_bucket rfl rfl rfl

/-- Nothing but the replicas, the storage and the log level of a spec is rendered. -/
theorem ofSpec_congr (ns image : String) {s' : RegistrySpec} (hreplicas : s.replicas = s'.replicas)
    (hstorage : s.storage = s'.storage) (hlevel : s.logLevel = s'.logLevel) :
    ofSpec s ns image = ofSpec s' ns image := by
  unfold ofSpec
  rw [hreplicas, hstorage, hlevel]

end

/-- **Deployments are faithful to their specs.** For specs without a fault that have a storage
backend, there are deployments in every namespace and of every image. They are equal, as they are
and as documents, exactly if the specs have the same replicas, storage and log level. And each shows
the storage of its spec: the backend as its volume, mounted where the variables point the registry
to, or the bucket and its region in the variables. -/
theorem deployments_are_faithful {s₁ s₂ : RegistrySpec} (hverified₁ : s₁.verify = .ok ())
    (hverified₂ : s₂.verify = .ok ()) (hconfigured₁ : s₁.storage.isConfigured = true)
    (hconfigured₂ : s₂.storage.isConfigured = true) (ns image : String) :
    ∃ d₁ d₂, ofSpec s₁ ns image = .ok d₁ ∧ ofSpec s₂ ns image = .ok d₂ ∧
      (d₁ = d₂ ↔ s₁.replicas = s₂.replicas ∧ s₁.storage = s₂.storage ∧ s₁.logLevel = s₂.logLevel) ∧
      (d₁.toJson = d₂.toJson ↔ d₁ = d₂) ∧ d₁.Shows s₁.storage ∧ d₂.Shows s₂.storage := by
  obtain ⟨d₁, h₁⟩ : ∃ d, ofSpec s₁ ns image = .ok d := ⟨_, ofSpec_of_configured hconfigured₁⟩
  obtain ⟨d₂, h₂⟩ : ∃ d, ofSpec s₂ ns image = .ok d := ⟨_, ofSpec_of_configured hconfigured₂⟩
  have hshows₁ := shows_storage hverified₁ hconfigured₁ h₁
  have hshows₂ := shows_storage hverified₂ hconfigured₂ h₂
  refine ⟨d₁, d₂, h₁, h₂, ⟨?_, ?_⟩, ⟨toJson_injective, congrArg toJson⟩, hshows₁, hshows₂⟩
  · intro heq
    obtain ⟨hreplicas₁, hlevel₁⟩ := replicas_and_logLevel hconfigured₁ h₁
    obtain ⟨hreplicas₂, hlevel₂⟩ := replicas_and_logLevel hconfigured₂ h₂
    rw [← heq] at hreplicas₂ hlevel₂ hshows₂
    have hlevel := congrArg List.head? (hlevel₁.symm.trans hlevel₂)
    rw [Option.head?_toList, Option.head?_toList] at hlevel
    exact ⟨hreplicas₁.symm.trans hreplicas₂, hshows₁.unique hshows₂, hlevel⟩
  · rintro ⟨hreplicas, hstorage, hlevel⟩
    have hsame := ofSpec_congr ns image hreplicas hstorage hlevel
    rw [h₁, h₂] at hsame
    exact Except.ok.inj hsame

/-- Two replicas that keep their images in another claim than before. -/
theorem deployments_are_faithful_moved : ∃ d₁ d₂,
    ofSpec { replicas := 2, storage := { pvc := some ⟨"data"⟩ } } "registry" "registry:2" = .ok d₁ ∧
    ofSpec { replicas := 2, storage := { pvc := some ⟨"archive"⟩ } } "registry" "registry:2" =
      .ok d₂ ∧
    d₁.toJson ≠ d₂.toJson ∧ d₂.Shows { pvc := some ⟨"archive"⟩ } := by
  have hdata :
      RegistrySpec.verify { replicas := 2, storage := { pvc := some ⟨"data"⟩ } } = .ok () := by
    decide
  have harchive :
      RegistrySpec.verify { replicas := 2, storage := { pvc := some ⟨"archive"⟩ } } = .ok () := by
    decide
  obtain ⟨d₁, d₂, h₁, h₂, hiff, hdocument, _, hshows⟩ :=
    deployments_are_faithful hdata harchive rfl rfl "registry" "registry:2"
  refine ⟨d₁, d₂, h₁, h₂, fun heq => ?_, hshows⟩
  obtain ⟨_, hstorage, _⟩ := hiff.mp (hdocument.mp heq)
  exact absurd hstorage (by decide)

end RegistryDeployment
end RegistryOperator
