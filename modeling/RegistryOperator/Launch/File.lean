import RegistryOperator.Text.Quoted

/-! Files of the system: where they are, and why one cannot be read. -/

namespace RegistryOperator

/-- Why a file cannot be read. -/
inductive FileFault
  | missing
  | denied
  | notDirectory
  | isDirectory
  | notText
deriving DecidableEq, Repr

/-- The text of a fault, with the number that the system gives it. -/
def FileFault.message : FileFault → String
  | .missing => "No such file or directory (os error 2)"
  | .denied => "Permission denied (os error 13)"
  | .notDirectory => "Not a directory (os error 20)"
  | .isDirectory => "Is a directory (os error 21)"
  | .notText => "stream did not contain valid UTF-8"

namespace Path

/-- A path in quotes. Apostrophes are escaped too. -/
def quote (path : String) : String :=
  let mark (c : Char) : String := if c = '\x27' then "\\\x27" else Text.quoteChar c
  "\"" ++ String.join (path.toList.map mark) ++ "\""

/-- The directory of a file, with the stroke at its end. -/
def directory (path : String) : String :=
  String.ofList (path.toList.reverse.dropWhile (· ≠ '/')).reverse

/-- The path of a file that another file names: it counts from the directory of that one. -/
def beside (path name : String) : String :=
  if name.startsWith "/" then name else directory path ++ name

end Path
end RegistryOperator
