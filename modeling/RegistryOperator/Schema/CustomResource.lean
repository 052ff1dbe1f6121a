import RegistryOperator.Resource.ClusterOperator
import RegistryOperator.Resource.ImageRegistry
import RegistryOperator.Schema.Basic

/-! The definitions of the two custom resources, as they are installed into a cluster. -/

namespace RegistryOperator

/-- The definition of a custom resource: its kind and the schemas of its spec and status. -/
structure CustomResource where
  kind : Kind
  singular : String
  spec : Schema
  status : Schema

namespace CustomResource

def condition : Schema :=
  .record
    { description :=
        "A single observation about the registry, in the style of Kubernetes status conditions." }
    [("lastTransitionTime", false, .moment
        { description :=
            "When `status` last changed. Rewriting the same status leaves this alone."
          nullable := true }),
      ("message", false, .text { nullable := true }),
      ("reason", false, .text { nullable := true }),
      ("status", true, .choice {} ["True", "False", "Unknown"]),
      ("type", true, .text {})]

def conditions : Schema := .list { default := some (.arr []) } condition

/-- The definition of the registry's resource. -/
def imageRegistry : CustomResource where
  kind := ImageRegistry.kind
  singular := "imageregistry"
  spec := .record
    { description :=
        "The desired state of the image registry. The `CustomResource` derive also produces a " ++
          "struct named `ImageRegistry` which represents the CRD object in the k8s API. There " ++
          "is exactly one of these in a cluster, named `cluster`." }
    [("logLevel", false, .text
        { description := "The log level of the registry process.", nullable := true }),
      ("managementState", true, .text
        { description := "Whether and how the operator manages the registry." }),
      ("replicas", true, .integer
        { description := "The number of registry replicas to run." } 32),
      ("storage", false, .record
        { description :=
            "The storage backend of the registry. At most one backend may be configured."
          default := some (.obj []) }
        [("emptyDir", false, .record { nullable := true } []),
          ("pvc", false, .record { nullable := true }
            [("claim", true, .text
              { description :=
                  "The name of the persistent volume claim in the operator namespace." })]),
          ("s3", false, .record { nullable := true }
            [("bucket", true, .text {}), ("region", true, .text {})])])]
  status := .record
    { description := "The status field of the `ImageRegistry`. Only the operator writes here."
      nullable := true }
    [("conditions", false, conditions),
      ("observedGeneration", false, .integer
        { description := "The `metadata.generation` of the spec that the operator last acted on."
          default := some (.int 0) } 64),
      ("readyReplicas", false, .integer
        { description := "The number of ready registry pods.", default := some (.int 0) } 32)]

/-- The definition of the resource through which operators report. -/
def clusterOperator : CustomResource where
  kind := ClusterOperator.kind
  singular := "clusteroperator"
  spec := .record
    { description :=
        "The cluster-wide status mirror. Every operator in a cluster reports through one of " ++
          "these, so the registry operator only cares about the one named `image-registry`. It " ++
          "is written by a sibling controller; the reconciliation engine only watches it." } []
  status := .record { nullable := true }
    [("conditions", false, conditions),
      ("versions", false, .list
        { description := "Operand versions, keyed by operand name.", default := some (.arr []) }
        (.record {} [("name", true, .text {}), ("version", true, .text {})]))]

/-- The schema of a whole object of the resource. -/
def schema (c : CustomResource) : Schema :=
  .record
    { description := s!"Auto-generated derived type for {c.kind.name}Spec via `CustomResource`" }
    [("spec", true, c.spec), ("status", false, c.status)]

def name (c : CustomResource) : String := c.kind.plural ++ "." ++ c.kind.group

/-- Adds a title to the document of a schema, before its type. -/
def withTitle (title : String) : Json → Json
  | .obj members =>
    .obj (members.flatMap fun (key, value) =>
      if key = "type" then [("title", .str title), (key, value)] else [(key, value)])
  | other => other

def toJson (c : CustomResource) : Json :=
  .obj [("apiVersion", .str "apiextensions.k8s.io/v1"), ("kind", .str "CustomResourceDefinition"),
    ("metadata", .obj [("name", .str c.name)]),
    ("spec", .obj [
      ("group", .str c.kind.group),
      ("names", .obj [("categories", .arr []), ("kind", .str c.kind.name),
        ("plural", .str c.kind.plural), ("shortNames", .arr []), ("singular", .str c.singular)]),
      ("scope", .str "Cluster"),
      ("versions", .arr [.obj [
        ("additionalPrinterColumns", .arr []),
        ("name", .str c.kind.version),
        ("schema", .obj [("openAPIV3Schema", withTitle c.kind.name c.schema.toJson)]),
        ("served", .bool true),
        ("storage", .bool true),
        ("subresources", .obj [("status", .obj [])])]])])]

end CustomResource
end RegistryOperator
