import RegistryOperator.Launch.Connection
import RegistryOperator.Log.Filter
import RegistryOperator.Operator.Basic

/-! The program from its start to its end: it reads its settings, finds the server, runs the
operator until it is told to stop, and ends with a status. -/

namespace RegistryOperator

/-- What tells the program to stop. -/
inductive StopSignal
  | interrupt
  | terminate
deriving DecidableEq, Repr

def StopSignal.name : StopSignal → String
  | .interrupt => "SIGINT"
  | .terminate => "SIGTERM"

/-- What the program asks. -/
inductive LaunchQuestion
  | environment
  /-- The content of a file, or why it cannot be read. -/
  | file (path : String)
  /-- The signal that comes while the operator runs. -/
  | signal
  /-- Something to report; there is nothing to answer. -/
  | report (line : LogLine)

def LaunchQuestion.Answer : LaunchQuestion → Type
  | .environment => Variables
  | .file _ => Except FileFault String
  | .signal => StopSignal
  | .report _ => Unit

def processEnvironment : Interface := ⟨LaunchQuestion, LaunchQuestion.Answer⟩

namespace Launch

abbrev LaunchProgram (α : Type) := Program processEnvironment α

def ask (q : LaunchQuestion) : LaunchProgram q.Answer :=
  Program.question (I := processEnvironment) q

/-- The name of the program in its filter. -/
def target : String := "registry_operator"

/-- The variable with the filter for what is reported. -/
def filterVariable : String := "RUST_LOG"

/-- The filter for what is reported. If none is given, the program and its parts are shown. -/
def filterOf (vars : Variables) : LogFilter :=
  match vars.get? filterVariable with
  | some text => .ofText text
  | none => .info [target, "controller", "registry_operator_model"]

def report (vars : Variables) (level : LogLevel) (message : String) : LaunchProgram Unit :=
  let line : LogLine := ⟨level, message⟩
  if (filterOf vars).allows target line then ask (.report line) else return ()

def readFiles : List String → LaunchProgram (List (String × Except FileFault String))
  | [] => return []
  | path :: rest => do
    let content ← ask (.file path)
    return (path, content) :: (← readFiles rest)

def errorStatus : Nat := 1

/-- The status when the operator fails at once. -/
def failureStatus : Nat := 101

def failWith (vars : Variables) (message : String) : LaunchProgram Nat := do
  report vars .error message
  return errorStatus

/-- Runs the operator until a signal comes. -/
def serve (vars : Variables) (c : OperatorConfig) : LaunchProgram Nat := do
  match c.start.phase with
  | .ended (.error e) => failWith vars e.message
  | .failed => return failureStatus
  | _ =>
    report vars .info s!"Received {(← ask .signal).name}"
    report vars .info "Stopped"
    return 0

/-- Reads a file, if there is one to read. -/
def readFile? : Option String → LaunchProgram (Except FileFault String)
  | some path => ask (.file path)
  | none => return .ok ""

/-- Finds the server. Its result is the error, if there is one. -/
def connect (vars : Variables) : LaunchProgram (Option String) := do
  match (Kubeconfig.ofFiles (← readFiles (Connection.filePaths vars))).bind (·.current) with
  | .error fault => return some (Connection.error vars fault)
  | .ok (cluster, user) =>
    match Connection.check vars cluster (← readFile? cluster.authorityFile) with
    | .error fault => return some (Connection.error vars fault)
    | .ok () =>
      match user.tokenFile, ← readFile? user.tokenFile with
      | some path, .error fault => return some (Connection.tokenError path fault)
      | _, _ => return none

/-- The whole program. Its result is its status. -/
def program : LaunchProgram Nat := do
  let vars ← ask .environment
  report vars .info "Starting"
  match OperatorConfig.ofVariables vars with
  | .error e => failWith vars e.message
  | .ok c =>
    match ← connect vars with
    | some e => failWith vars ("Unable to create k8s client: " ++ e)
    | none => serve vars c

end Launch
end RegistryOperator
