import RegistryOperator.Resource.StringMap
import RegistryOperator.Time.Rfc3339

/-! The metadata that every object of the cluster carries. Reading ignores unknown fields; a field
that is absent or null is none. Writing lists the fields alphabetically and leaves out those that
are none. -/

namespace RegistryOperator

namespace Decode

def int32 : Decoder Int := whole (-(2 ^ (31 : Nat))) (2 ^ (31 : Nat) - 1)

def int64 : Decoder Int := whole (-(2 ^ (63 : Nat))) (2 ^ (63 : Nat) - 1)

end Decode

/-- Which fields of an object a writer manages. -/
structure ManagedFields where
  apiVersion : Option String
  fieldsType : Option String
  fields : Option Json
  manager : Option String
  operation : Option String
  subresource : Option String
  time : Option Timestamp
deriving DecidableEq

/-- An object that owns another one. -/
structure OwnerReference where
  apiVersion : String
  blockOwnerDeletion : Option Bool
  controller : Option Bool
  kind : String
  name : String
  uid : String
deriving DecidableEq

/-- The metadata of an object. -/
structure Metadata where
  annotations : Option StringMap := none
  clusterName : Option String := none
  creationTimestamp : Option Timestamp := none
  deletionGracePeriodSeconds : Option Int := none
  deletionTimestamp : Option Timestamp := none
  finalizers : Option (List String) := none
  generateName : Option String := none
  generation : Option Int := none
  labels : Option StringMap := none
  managedFields : Option (List ManagedFields) := none
  name : Option String := none
  ns : Option String := none
  ownerReferences : Option (List OwnerReference) := none
  resourceVersion : Option String := none
  selfLink : Option String := none
  uid : Option String := none
deriving DecidableEq, Inhabited

namespace ManagedFields

def reading : Reading ManagedFields :=
  ManagedFields.mk <$> .nullable "apiVersion" Decode.string <*> .nullable "fieldsType" Decode.string
    <*> .nullable "fieldsV1" Decode.json <*> .nullable "manager" Decode.string
    <*> .nullable "operation" Decode.string <*> .nullable "subresource" Decode.string
    <*> .nullable "time" Timestamp.decode

def toJson (m : ManagedFields) : Json :=
  .record [("apiVersion", m.apiVersion.map .str), ("fieldsType", m.fieldsType.map .str),
    ("fieldsV1", m.fields), ("manager", m.manager.map .str), ("operation", m.operation.map .str),
    ("subresource", m.subresource.map .str), ("time", m.time.map (.str ·.textSeconds))]

end ManagedFields

namespace OwnerReference

/-- The fields of a reference. What is absent or null becomes the empty text. -/
def reading : Reading OwnerReference :=
  (fun apiVersion block controller kind name uid => OwnerReference.mk (apiVersion.getD "") block
      controller (kind.getD "") (name.getD "") (uid.getD ""))
    <$> .nullable "apiVersion" Decode.string <*> .nullable "blockOwnerDeletion" Decode.bool
    <*> .nullable "controller" Decode.bool <*> .nullable "kind" Decode.string
    <*> .nullable "name" Decode.string <*> .nullable "uid" Decode.string

def toJson (r : OwnerReference) : Json :=
  .record [("apiVersion", some (.str r.apiVersion)),
    ("blockOwnerDeletion", r.blockOwnerDeletion.map .bool), ("controller", r.controller.map .bool),
    ("kind", some (.str r.kind)), ("name", some (.str r.name)), ("uid", some (.str r.uid))]

end OwnerReference

namespace Metadata

def reading : Reading Metadata :=
  Metadata.mk <$> .nullable "annotations" StringMap.decode
    <*> .nullable "clusterName" Decode.string
    <*> .nullable "creationTimestamp" Timestamp.decode
    <*> .nullable "deletionGracePeriodSeconds" Decode.int64
    <*> .nullable "deletionTimestamp" Timestamp.decode
    <*> .nullable "finalizers" (Decode.list Decode.string)
    <*> .nullable "generateName" Decode.string
    <*> .nullable "generation" Decode.int64
    <*> .nullable "labels" StringMap.decode
    <*> .nullable "managedFields" (Decode.list ManagedFields.reading.decodeObject)
    <*> .nullable "name" Decode.string
    <*> .nullable "namespace" Decode.string
    <*> .nullable "ownerReferences" (Decode.list OwnerReference.reading.decodeObject)
    <*> .nullable "resourceVersion" Decode.string
    <*> .nullable "selfLink" Decode.string
    <*> .nullable "uid" Decode.string

def decode : Decoder Metadata := reading.decodeObject

def toJson (m : Metadata) : Json :=
  .record [("annotations", m.annotations.map StringMap.toJson),
    ("clusterName", m.clusterName.map .str),
    ("creationTimestamp", m.creationTimestamp.map (.str ·.textSeconds)),
    ("deletionGracePeriodSeconds", m.deletionGracePeriodSeconds.map .int),
    ("deletionTimestamp", m.deletionTimestamp.map (.str ·.textSeconds)),
    ("finalizers", m.finalizers.map fun fs => .arr (fs.map .str)),
    ("generateName", m.generateName.map .str),
    ("generation", m.generation.map .int),
    ("labels", m.labels.map StringMap.toJson),
    ("managedFields", m.managedFields.map fun fs => .arr (fs.map ManagedFields.toJson)),
    ("name", m.name.map .str),
    ("namespace", m.ns.map .str),
    ("ownerReferences", m.ownerReferences.map fun rs => .arr (rs.map OwnerReference.toJson)),
    ("resourceVersion", m.resourceVersion.map .str),
    ("selfLink", m.selfLink.map .str),
    ("uid", m.uid.map .str)]

def objectName (m : Metadata) : String := m.name.getD ""

/-- The name shown for an object: one that is still to get its name shows what the name will start
with. -/
def shownName (m : Metadata) : String := (m.name.or m.generateName).getD ""

/-- The generation of the spec, zero before the object was stored. -/
def specGeneration (m : Metadata) : Int := m.generation.getD 0

def hasFinalizers (m : Metadata) : Bool := (m.finalizers.getD []) ≠ []

def hasFinalizer (m : Metadata) (finalizer : String) : Bool :=
  (m.finalizers.getD []).contains finalizer

/-- Appends `finalizer` unless it is present. -/
def addFinalizer (m : Metadata) (finalizer : String) : Metadata :=
  if m.hasFinalizer finalizer then m
  else { m with finalizers := some (m.finalizers.getD [] ++ [finalizer]) }

/-- Removes every occurrence of `finalizer`. A list that becomes empty stays. -/
def removeFinalizer (m : Metadata) (finalizer : String) : Metadata :=
  { m with finalizers := m.finalizers.map (·.filter (· ≠ finalizer)) }

/-- Whether someone asked for the object to be deleted. -/
def isDeleteRequested (m : Metadata) : Bool := m.deletionTimestamp.isSome

def info (m : Metadata) : String :=
  let version := m.resourceVersion.getD ""
  match m.ns with
  | some ns => ns ++ "/" ++ m.shownName ++ " (rv=" ++ version ++ ")"
  | none => m.shownName ++ " (rv=" ++ version ++ ")"

end Metadata
end RegistryOperator
