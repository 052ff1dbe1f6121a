import RegistryOperator.Api.Uri
import RegistryOperator.Launch.File
import RegistryOperator.Text.Basic
import RegistryOperator.Yaml.Shape

/-! The files in which a user keeps the clusters he talks to. They name clusters, users, and
contexts, which are a cluster and a user each; one context is the current one. Several files count
as one, in which the first part of a name is the one that is found. -/

namespace RegistryOperator

/-- A cluster: where its server is, and how to know and reach it. -/
structure ClusterAccess where
  server : Option String
  /-- The text of the authority that vouches for the server. -/
  authority : Option String
  /-- The file of that authority, if its text is not given. -/
  authorityFile : Option String
  proxy : Option String
deriving DecidableEq, Repr

/-- A user: the file of the token that tells who he is, if there is nothing else that does. -/
structure UserAccess where
  tokenFile : Option String
deriving DecidableEq, Repr

/-- A context: the names of its cluster and its user. -/
structure AccessContext where
  cluster : String
  user : String
deriving DecidableEq, Repr

/-- What a user's files tell. What a name stands for may be left out. -/
structure Kubeconfig where
  kind : Option String := none
  apiVersion : Option String := none
  currentContext : Option String := none
  clusters : List (String × Option ClusterAccess) := []
  users : List (String × Option UserAccess) := []
  contexts : List (String × Option AccessContext) := []
deriving DecidableEq, Repr

/-- Why a user's files do not lead to a server. -/
inductive KubeconfigFault
  | unreadable (path : String) (fault : FileFault)
  | syntactic (message : String)
  | structural (message : String)
  | kinds
  | versions
  | noContext
  | context (name : String)
  | cluster (name : String)
  | user (name : String)
  | noServer
  | server (fault : UriFault)
  | authority
  | proxy (fault : UriFault)
deriving DecidableEq, Repr

def KubeconfigFault.message : KubeconfigFault → String
  | .unreadable path fault =>
    s!"failed to read kubeconfig from '{Path.quote path}': {fault.message}"
  | .syntactic message => "failed to parse kubeconfig YAML: " ++ message
  | .structural message => "the structure of the parsed kubeconfig is invalid: " ++ message
  | .kinds => "kubeconfigs with mismatching kind cannot be merged"
  | .versions => "kubeconfigs with mismatching api version cannot be merged"
  | .noContext => "failed to determine current context"
  | .context name => "failed to load current context: " ++ name
  | .cluster name => "failed to load the cluster of context: " ++ name
  | .user name => "failed to find named user: " ++ name
  | .noServer => "cluster url is missing on selected cluster"
  | .server fault => "failed to parse cluster url: " ++ fault.message
  | .authority => "failed to load certificate authority"
  | .proxy fault => "failed to parse proxy url: " ++ fault.message

namespace Kubeconfig

/-! The shape of a file -/

def optionalText : YamlShape := .optional .text

/-- Fields with texts that may be absent. -/
def texts (names : List String) : List (String × YamlShape) := names.map (·, optionalText)

def named (kind field : String) (shape : YamlShape) : YamlShape :=
  .record kind [("name", .text), (field, shape)]

def extensions : String × YamlShape :=
  ("extensions", .optional (.list (named "NamedExtension" "extension" .any)))

def clusterShape : YamlShape :=
  .record "Cluster" (texts ["server", "certificate-authority", "certificate-authority-data",
    "proxy-url", "tls-server-name"] ++ [("insecure-skip-tls-verify", .optional .bool), extensions])

def userShape : YamlShape :=
  .record "AuthInfo" (texts ["username", "password", "token", "tokenFile", "client-certificate",
    "client-certificate-data", "client-key", "client-key-data", "as"] ++
    [("as-groups", .optional (.list .text)),
      ("auth-provider", .optional (.record "AuthProviderConfig"
        [("name", .text), ("config", .optional (.map .text))])),
      ("exec", .optional (.record "ExecConfig" (texts ["apiVersion", "command"] ++
        [("args", .optional (.list .text)), ("env", .optional (.list (.map .text))),
          ("provideClusterInfo", .optional .bool)])))])

def contextShape : YamlShape :=
  .record "Context" [("cluster", .text), ("user", .text), ("namespace", optionalText), extensions]

def shape : YamlShape :=
  let parts (kind field : String) (shape : YamlShape) : YamlShape :=
    .optional (.list (named kind field (.optional shape)))
  .record "Kubeconfig" (texts ["current-context", "kind", "apiVersion"] ++
    [("clusters", parts "NamedCluster" "cluster" clusterShape),
      ("users", parts "NamedAuthInfo" "user" userShape),
      ("contexts", parts "NamedContext" "context" contextShape),
      ("preferences", .optional (.record "Preferences" [("colors", .optional .bool), extensions])),
      extensions])

/-! Reading -/

def textAt? (v : YamlValue) (name : String) : Option String := (v.get? name).bind YamlValue.text?

/-- The parts with names in a list, each read if it is there. -/
def partsOf {α : Type} (v : YamlValue) (list field : String) (read : YamlValue → α) :
    List (String × Option α) :=
  let items := ((v.get? list).map YamlValue.items).getD []
  items.map fun item =>
    let part := (item.get? field).filter fun
      | .null => false
      | _ => true
    ((textAt? item "name").getD "", part.map read)

def readCluster (path : String) (v : YamlValue) : ClusterAccess where
  server := textAt? v "server"
  authority := textAt? v "certificate-authority-data"
  authorityFile := (textAt? v "certificate-authority").map (Path.beside path)
  proxy := textAt? v "proxy-url"

/-- Whether a user tells who he is without a file. -/
def hasCredentials (v : YamlValue) : Bool :=
  (textAt? v "token").isSome || ((textAt? v "username").isSome && (textAt? v "password").isSome) ||
    (v.get? "auth-provider").isSome

def readUser (path : String) (v : YamlValue) : UserAccess where
  tokenFile :=
    if hasCredentials v then none else (textAt? v "tokenFile").map (Path.beside path)

def readContext (v : YamlValue) : AccessContext where
  cluster := (textAt? v "cluster").getD ""
  user := (textAt? v "user").getD ""

def ofValue (path : String) (v : YamlValue) : Except KubeconfigFault Kubeconfig :=
  match shape.check v with
  | .error message => .error (.structural message)
  | .ok () => .ok {
      kind := textAt? v "kind"
      apiVersion := textAt? v "apiVersion"
      currentContext := textAt? v "current-context"
      clusters := partsOf v "clusters" "cluster" (readCluster path)
      users := partsOf v "users" "user" (readUser path)
      contexts := partsOf v "contexts" "context" readContext }

/-- Whether two texts differ, if both are there. -/
def differ (a b : Option String) : Bool := a.isSome && b.isSome && a ≠ b

def merge (a b : Kubeconfig) : Except KubeconfigFault Kubeconfig :=
  if differ a.kind b.kind then .error .kinds
  else if differ a.apiVersion b.apiVersion then .error .versions
  else .ok {
    kind := a.kind.or b.kind
    apiVersion := a.apiVersion.or b.apiVersion
    currentContext := a.currentContext.or b.currentContext
    clusters := a.clusters ++ b.clusters
    users := a.users ++ b.users
    contexts := a.contexts ++ b.contexts }

/-- The documents of a file, each of its shape. -/
def readDocuments (path : String) :
    List Yaml.Node → Option String → Except KubeconfigFault (List Kubeconfig)
  | [], none => .ok []
  | [], some message => .error (.syntactic message)
  | node :: rest, message =>
    match YamlValue.ofNode [] node with
    | .error message => .error (.syntactic message)
    | .ok v => do return (← ofValue path v) :: (← readDocuments path rest message)

def ofText (path text : String) : Except KubeconfigFault Kubeconfig := do
  let (nodes, message) := Yaml.documents text
  (← readDocuments path nodes message).foldlM merge {}

def ofFiles (files : List (String × Except FileFault String)) : Except KubeconfigFault Kubeconfig :=
  files.foldlM (fun done (path, content) =>
    match content with
    | .error fault => .error (.unreadable path fault)
    | .ok text => do done.merge (← ofText path text)) {}

/-! The current context -/

def find? {α : Type} (parts : List (String × Option α)) (name : String) : Option α :=
  (parts.lookup name).bind id

/-- The cluster and the user of the current context. -/
def current (c : Kubeconfig) : Except KubeconfigFault (ClusterAccess × UserAccess) := do
  let some name := c.currentContext | throw .noContext
  let some context := find? c.contexts name | throw (.context name)
  let some cluster := find? c.clusters context.cluster | throw (.cluster context.cluster)
  let some user := find? c.users context.user | throw (.user context.user)
  return (cluster, user)

def checkServer (cluster : ClusterAccess) : Except KubeconfigFault Unit :=
  match cluster.server with
  | none => .error .noServer
  | some server => (Uri.check server).mapError .server

/-- Checks the authority of a cluster, given what is found in its file. -/
def checkAuthority (cluster : ClusterAccess) (file : Except FileFault String) :
    Except KubeconfigFault Unit :=
  match cluster.authority, cluster.authorityFile, file with
  | some text, _, _ => if Text.isBase64 text then .ok () else .error .authority
  | none, none, _ | none, some _, .ok _ => .ok ()
  | none, some _, .error _ => .error .authority

/-- The address of the proxy: the one of the cluster, or else the first of others. -/
def proxyOf (cluster : ClusterAccess) (others : List (Option String)) : Option String :=
  (cluster.proxy :: others).findSome? (·.filter (· ≠ ""))

def checkProxy (cluster : ClusterAccess) (others : List (Option String)) :
    Except KubeconfigFault Unit :=
  match proxyOf cluster others with
  | none => .ok ()
  | some proxy => (Uri.check proxy).mapError .proxy

end Kubeconfig
end RegistryOperator
