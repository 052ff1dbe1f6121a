import RegistryOperator.Config.Number
import RegistryOperator.Launch.Kubeconfig
import RegistryOperator.Text.Basic

/-! How the operator finds its cluster. In the cluster two variables say where the server is, and
files beside them how to talk to it; elsewhere a file of the user does, at the path that a variable
gives or at the usual one. -/

namespace RegistryOperator

/-- The environment variables of the program. -/
abbrev Variables := List (String × String)

namespace Variables

def get? (vars : Variables) (name : String) : Option String := (vars.find? (·.1 = name)).map (·.2)

def ofText? (text : String) : Option (String × String) :=
  match text.toList with
  | [] => none
  | first :: rest =>
    match rest.dropWhile (· ≠ '=') with
    | [] => none
    | _ :: value =>
      some (String.ofList (first :: rest.takeWhile (· ≠ '=')), String.ofList value)

def set (vars : Variables) (name value : String) : Variables :=
  if vars.any (·.1 = name) then vars.map fun v => if v.1 = name then (name, value) else v
  else vars ++ [(name, value)]

/-- The variables after several are set, one after the other. -/
def ofAssignments (assignments : List (String × String)) : Variables :=
  assignments.foldl (fun vars (name, value) => vars.set name value) []

/-- The variables as a program that is started finds them: in the order of their names, and each
told as one text, in which the name ends at the first equals sign after its first character. -/
def handedOver (vars : Variables) : Variables :=
  (vars.mergeSort fun a b => decide (a.1 ≤ b.1)).filterMap fun (name, value) =>
    ofText? (name ++ "=" ++ value)

end Variables

namespace Connection

/-! The server as it is seen from within the cluster -/

/-- A part of an address of sixteen bytes: one to four hexadecimal digits. -/
def isGroup (s : String) : Bool :=
  1 ≤ s.length && s.length ≤ 4 && s.all fun c => (Text.hexDigit? c).isSome

/-- Whether a text is an address of four bytes, in decimal. -/
def isIpv4 (s : String) : Bool :=
  let parts := s.splitOn "."
  parts.length = 4 && parts.all fun part =>
    match Config.readDigits 256 0 part.toList with
    | .ok _ => part ≠ "" && (part = "0" || !part.startsWith "0")
    | .error _ => false

/-- The groups that parts stand for. The last part may be an address of four bytes, which takes the
place of two. -/
def groupsIn (parts : List String) (mayEndIpv4 : Bool) : Option Nat :=
  match parts.getLast? with
  | none => some 0
  | some last =>
    if parts.all isGroup then some parts.length
    else if mayEndIpv4 && parts.dropLast.all isGroup && isIpv4 last then some (parts.length + 1)
    else none

/-- Whether a text is an address of sixteen bytes: eight groups between colons, or fewer with a
double colon for the rest, which are all zero. -/
def isIpv6 (s : String) : Bool :=
  let parts (s : String) : List String := if s = "" then [] else s.splitOn ":"
  match s.splitOn "::" with
  | [whole] => groupsIn (parts whole) true = some 8
  | [front, back] =>
    match groupsIn (parts front) false, groupsIn (parts back) true with
    | some m, some n => m + n ≤ 7
    | _, _ => false
  | _ => false

def usualPort : Nat := 443

/-- The address of a server at a host and a port. -/
def address (host : String) (port : Nat) : String :=
  let host := if isIpv6 host then "[" ++ host ++ "]" else host
  "https://" ++ host ++ (if port = usualPort then "" else ":" ++ toString port)

/-- The error in finding a server from within the cluster. -/
def inClusterError (vars : Variables) : String :=
  match vars.get? "KUBERNETES_SERVICE_HOST", vars.get? "KUBERNETES_SERVICE_PORT" with
  | some host, some port =>
    match Config.readWhole (2 ^ (16 : Nat)) port with
    | .error fault => "failed to parse cluster port: " ++ fault.message
    | .ok port =>
      match Uri.check (address host port) with
      | .error fault => "failed to parse cluster url: " ++ fault.message
      | .ok () => "failed to read the default namespace: " ++ FileFault.missing.message
  | _, _ => "failed to read an incluster environment variable: environment variable not found"

/-! The server that a user's file names -/

def filePaths (vars : Variables) : List String :=
  match (((vars.get? "KUBECONFIG").getD "").splitOn ":").filter (· ≠ "") with
  | [] =>
    let home := ((vars.get? "HOME").filter (· ≠ "")).getD "/root"
    [home ++ (if home.endsWith "/" then "" else "/") ++ ".kube/config"]
  | paths => paths

def proxyVariables : List String := ["HTTP_PROXY", "HTTPS_PROXY"]

/-- Checks a cluster, given what is found in the file of its authority. -/
def check (vars : Variables) (cluster : ClusterAccess) (authority : Except FileFault String) :
    Except KubeconfigFault Unit := do
  Kubeconfig.checkServer cluster
  Kubeconfig.checkAuthority cluster authority
  Kubeconfig.checkProxy cluster (proxyVariables.map vars.get?)

/-- The error if there is no server to be found. -/
def error (vars : Variables) (fault : KubeconfigFault) : String :=
  "Failed to infer configuration: failed to infer config: in-cluster: " ++
    s!"({inClusterError vars}), kubeconfig: ({fault.message})"

/-- The error if the token of a user cannot be read. -/
def tokenError (path : String) (fault : FileFault) : String :=
  s!"auth error: failed to read token file '{Path.quote path}': {fault.message}"

end Connection
end RegistryOperator
