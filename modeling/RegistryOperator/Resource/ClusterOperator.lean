import RegistryOperator.Resource.Condition
import RegistryOperator.Resource.Kind

/-! The resource through which an operator reports its state to the whole cluster. It is written
elsewhere; here it is only watched. -/

namespace RegistryOperator

/-- The version of a component that an operator runs. -/
structure OperandVersion where
  name : String
  version : String
deriving DecidableEq, Repr

/-- The state that an operator reports. -/
structure ClusterOperatorStatus where
  conditions : List Condition := []
  versions : List OperandVersion := []
deriving DecidableEq, Repr, Inhabited

namespace ClusterOperatorStatus

def reading : Reading ClusterOperatorStatus :=
  ClusterOperatorStatus.mk <$> .defaulted "conditions" (Decode.list Condition.decode) []
    <*> .defaulted "versions" (Decode.list
      (OperandVersion.mk <$> .required "name" Decode.string <*> .required "version" Decode.string :
        Reading OperandVersion).decode) []

def toJson (s : ClusterOperatorStatus) : Json :=
  .obj [("conditions", .arr (s.conditions.map Condition.toJson)),
    ("versions", .arr (s.versions.map fun v =>
      .obj [("name", .str v.name), ("version", .str v.version)]))]

end ClusterOperatorStatus

/-- The report of an operator. Its spec has no fields. -/
structure ClusterOperator where
  metadata : Metadata := {}
  status : Option ClusterOperatorStatus := none
deriving DecidableEq, Inhabited

namespace ClusterOperator

def group : String := "config.operator.dev"

def kind : Kind := ⟨"ClusterOperator", group, "v1", "clusteroperators"⟩

/-- The name under which the registry is reported. -/
def registryName : String := "image-registry"

def reading : Reading ClusterOperator :=
  (fun metadata _ status => ⟨metadata, status⟩) <$> .required "metadata" Metadata.decode
    <*> .required "spec" (Reading.pure ()).decode
    <*> .nullable "status" ClusterOperatorStatus.reading.decode

def decode : Decoder ClusterOperator := reading.decode

def toJson (o : ClusterOperator) : Json :=
  .record [("apiVersion", some (.str kind.apiVersion)), ("kind", some (.str kind.name)),
    ("metadata", some o.metadata.toJson), ("spec", some (.obj [])),
    ("status", o.status.map ClusterOperatorStatus.toJson)]

instance : Resource ClusterOperator := ⟨ClusterOperator.metadata⟩

end ClusterOperator
end RegistryOperator
