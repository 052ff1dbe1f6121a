import RegistryOperator.Api.Failure
import RegistryOperator.Resource.Validation

/-! What comes of applying a management state, and of a whole pass. -/

namespace RegistryOperator

/-- Why a registry cannot be reconciled until its spec changes. -/
inductive PermanentReason
  | verificationFailed
  | storageNotConfigured
deriving DecidableEq, Repr

def PermanentReason.word : PermanentReason → String
  | .verificationFailed => "VerificationFailed"
  | .storageNotConfigured => "StorageNotConfigured"

/-- Why a management state was not applied. -/
inductive ApplyError
  /-- Trying again does not help. It is recorded in the status. -/
  | permanent (reason : PermanentReason) (text : String)
  /-- Worth another try. -/
  | transient (source : GeneratorError)
deriving DecidableEq, Repr

namespace ApplyError

def message : ApplyError → String
  | .permanent reason text => reason.word ++ ": " ++ text
  | .transient source => source.message

def permanentReason : ApplyError → Option PermanentReason
  | .permanent reason _ => some reason
  | .transient _ => none

def kind : ApplyError → String
  | .permanent .. => "Permanent"
  | .transient .. => "Transient"

def isPermanent (e : ApplyError) : Bool := e.permanentReason.isSome

/-- A missing storage backend is the spec's fault, every other error may pass. -/
def ofGenerator : GeneratorError → ApplyError
  | .storageNotConfigured =>
    .permanent .storageNotConfigured GeneratorError.storageNotConfigured.message
  | e => .transient e

def ofFault (fault : SpecFault) : ApplyError := .permanent .verificationFailed fault.message

end ApplyError

/-- The result of applying a management state. -/
abbrev Applied := Except ApplyError Unit

/-- Why a pass failed. Each of these is tried again; what trying again cannot mend is recorded in
the status and does not appear here. -/
inductive PassError
  | apply (name : String) (source : ApplyError)
  | bootstrap (source : StoreError)
  | finalize (name : String) (source : GeneratorError)
  | getDeployment (name : String) (source : ListerError)
  | getRegistry (name : String) (source : ListerError)
  | teardownPending (name finalizer : String)
  | updateRegistry (name : String) (source : StoreError)
  | updateStatus (name : String) (source : StoreError)
deriving DecidableEq, Repr

namespace PassError

def message : PassError → String
  | .apply name e => s!"Unable to apply ImageRegistry '{name}': {e.message}"
  | .bootstrap e => s!"Unable to create default ImageRegistry: {e.message}"
  | .finalize name e => s!"Unable to finalize ImageRegistry '{name}': {e.message}"
  | .getDeployment name e => s!"Unable to get Deployment '{name}' from the cache: {e.message}"
  | .getRegistry name e => s!"Unable to get ImageRegistry '{name}' from the cache: {e.message}"
  | .teardownPending name finalizer =>
    s!"Teardown of ImageRegistry '{name}' is not complete, keeping finalizer '{finalizer}'"
  | .updateRegistry name e => s!"Unable to update ImageRegistry '{name}': {e.message}"
  | .updateStatus name e => s!"Unable to update status of ImageRegistry '{name}': {e.message}"

def kind : PassError → String
  | .apply .. => "Apply"
  | .bootstrap .. => "Bootstrap"
  | .finalize .. => "Finalize"
  | .getDeployment .. => "GetDeployment"
  | .getRegistry .. => "GetRegistry"
  | .teardownPending .. => "TeardownPending"
  | .updateRegistry .. => "UpdateRegistry"
  | .updateStatus .. => "UpdateStatus"

/-- Whether a write was refused because someone else wrote first, which is to be expected. -/
def isConflict : PassError → Bool
  | .updateRegistry _ e => e.isConflict
  | .updateStatus _ e => e.isConflict
  | _ => false

end PassError
end RegistryOperator
