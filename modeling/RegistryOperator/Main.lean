import RegistryOperator.Launch.Basic
import RegistryOperator.Schema.Yaml

/-! The command line. Without arguments the program starts as in a cluster; with `definitions` it
prints the definitions of the custom resources. -/

open RegistryOperator

/-- The variables in the text that the system keeps of them, each ended by a null character. -/
def readVariables : IO Variables := do
  let text ← IO.FS.readFile "/proc/self/environ"
  return (text.splitOn "\x00").filterMap Variables.ofText?

def faultOf : IO.Error → FileFault
  | .permissionDenied .. => .denied
  | .inappropriateType _ 20 _ => .notDirectory
  | .inappropriateType .. => .isDirectory
  | _ => .missing

/-- Waits until the system ends the program. -/
partial def waitForEver : IO StopSignal := do
  IO.sleep 60000
  waitForEver

def answerFromSystem : (q : LaunchQuestion) → IO q.Answer
  | .environment => readVariables
  | .file path => do
    try
      match String.fromUTF8? (← IO.FS.readBinFile path) with
      | some text => return .ok text
      | none => return .error .notText
    catch e =>
      return .error (faultOf e)
  | .signal => waitForEver
  | .report line => IO.eprintln line.text

def main (args : List String) : IO UInt32 := do
  if args = ["definitions"] then
    for line in Yaml.definitions do
      IO.println line
    return 0
  return (← Launch.program.run (I := processEnvironment) answerFromSystem).toUInt32
