import Dbml.CommandLine.Program

/-!
# The program

The command on the file system of the machine.
-/

namespace Dbml.CommandLine

/-- The reason of a failure of the system. -/
def FileError.ofSystem : IO.Error → FileError
  | .noFileOrDirectory .. => .notFound
  | .alreadyExists .. => .alreadyExists
  | .inappropriateType _ code details =>
    if code = 20 then .notADirectory else if code = 21 then .isADirectory else .other details
  | .permissionDenied _ code _ =>
    .other ("Permission denied (os error " ++ code.toNat.repr ++ ")")
  | error => .other (toString error)

/-- An action with its failure as a value. -/
def orError {α : Type} (action : IO α) : IO (Except FileError α) := do
  try
    return .ok (← action)
  catch error =>
    return .error (FileError.ofSystem error)

/-- The file system and standard input of the machine. -/
def machine : Host IO where
  readInput := orError do (← IO.getStdin).readToEnd
  readFile path := orError (IO.FS.readFile path)
  isDirectory path := do
    try
      (← IO.FS.realPath path).isDir
    catch _ =>
      return false
  makeDirectory path := orError (IO.FS.createDir path)
  writeFile path text := orError (IO.FS.writeFile path text)

end Dbml.CommandLine

/-- Runs the command with the arguments of the process. -/
def main (arguments : List String) : IO UInt32 := do
  let outcome ← Dbml.CommandLine.run Dbml.CommandLine.machine arguments
  IO.print outcome.stdout
  IO.eprint outcome.stderr
  return outcome.code.toUInt32
