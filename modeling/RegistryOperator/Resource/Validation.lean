import RegistryOperator.Resource.ImageRegistry

/-! Whether a spec can be acted upon. One that is refused here stays refused until someone edits
it. -/

namespace RegistryOperator

/-- What is wrong with a spec. -/
inductive SpecFault
  | negativeReplicas (replicas : Int)
  | severalBackends (count : Nat)
  | sharedEmptyDir (replicas : Int)
  | missingField (backend field : String)
deriving DecidableEq, Repr

namespace SpecFault

def message : SpecFault → String
  | .negativeReplicas r => s!"replicas must be greater than or equal to 0, got {r}"
  | .severalBackends n => s!"at most one storage backend may be configured, found {n} backends"
  | .sharedEmptyDir r =>
    s!"emptyDir storage cannot be shared between {r} replicas, use a single replica or a " ++
      "persistent backend"
  | .missingField backend field =>
    s!"storage backend '{backend}' is missing the required field '{field}'"

end SpecFault

namespace RegistrySpec

def pvcFault (p : PvcStorage) : Option SpecFault :=
  if p.claim = "" then some (.missingField "pvc" "claim") else none

/-- The fault of a bucket without a name or region. -/
def s3Fault (b : S3Storage) : Option SpecFault :=
  if b.bucket = "" then some (.missingField "s3" "bucket")
  else if b.region = "" then some (.missingField "s3" "region")
  else none

def fault? (s : RegistrySpec) : Option SpecFault :=
  if s.replicas < 0 then some (.negativeReplicas s.replicas)
  else if 1 < s.storage.backends then some (.severalBackends s.storage.backends)
  else if s.storage.emptyDir.isSome ∧ 1 < s.replicas then some (.sharedEmptyDir s.replicas)
  else (s.storage.pvc.bind pvcFault).or (s.storage.s3.bind s3Fault)

def verify (s : RegistrySpec) : Except SpecFault Unit :=
  match s.fault? with
  | some fault => .error fault
  | none => .ok ()

end RegistrySpec
end RegistryOperator
