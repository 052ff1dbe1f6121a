/-! What the operator reports while it works. -/

namespace RegistryOperator

/-- How much a reported event matters. -/
inductive LogLevel
  | error
  | warn
  | info
  | debug
  | trace
deriving DecidableEq, Repr

namespace LogLevel

def name : LogLevel → String
  | .error => "ERROR"
  | .warn => "WARN"
  | .info => "INFO"
  | .debug => "DEBUG"
  | .trace => "TRACE"

/-- The rank of a level; what matters most comes first. -/
def rank : LogLevel → Nat
  | .error => 1
  | .warn => 2
  | .info => 3
  | .debug => 4
  | .trace => 5

end LogLevel

/-- A reported event. -/
structure LogLine where
  level : LogLevel
  message : String
deriving DecidableEq, Repr

def LogLine.text (l : LogLine) : String := l.level.name ++ " " ++ l.message

abbrev Log := List LogLine

end RegistryOperator
