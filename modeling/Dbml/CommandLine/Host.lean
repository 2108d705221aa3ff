import Dbml.CommandLine.Path

/-!
# Hosts

A host gives the command access to files and standard input.  The operations are those of an
operating system; what the command makes of them is the same on every host.
-/

namespace Dbml.CommandLine

/-- Why an operation on files fails. -/
inductive FileError where
  | notFound
  | alreadyExists
  | notADirectory
  | isADirectory
  | nameTooLong
  /-- No name can have a character of code zero. -/
  | zeroInName
  | other (reason : String)
  deriving DecidableEq, Repr

/-- The wording of an error. -/
def FileError.message : FileError → String
  | .notFound => "No such file or directory (os error 2)"
  | .alreadyExists => "File exists (os error 17)"
  | .notADirectory => "Not a directory (os error 20)"
  | .isADirectory => "Is a directory (os error 21)"
  | .nameTooLong => "File name too long (os error 36)"
  | .zeroInName => "file name contained an unexpected NUL byte"
  | .other reason => reason

/-- Access to files and to standard input. -/
structure Host (m : Type → Type) where
  readInput : m (Except FileError String)
  readFile : String → m (Except FileError String)
  isDirectory : String → m Bool
  /-- Makes one directory in another that exists. -/
  makeDirectory : String → m (Except FileError Unit)
  writeFile : String → String → m (Except FileError Unit)

namespace Host

variable {m : Type → Type} [Monad m]

/-- Makes a directory unless it is there. -/
def ensureDirectory (host : Host m) (path : String) : m (Except FileError Unit) := do
  match ← host.makeDirectory path with
  | .ok () => return .ok ()
  | .error error => return if ← host.isDirectory path then .ok () else .error error

/-- Makes the first of several directories.  If something above it is missing, the others, which are
the directories above it, are made before. -/
def ensureFirst (host : Host m) : List String → m (Except FileError Unit)
  | [] => return .ok ()
  | path :: parents => do
    match ← host.ensureDirectory path with
    | .error .notFound =>
      match ← host.ensureFirst parents with
      | .ok () => host.ensureDirectory path
      | .error error => return .error error
    | result => return result

/-- Makes a directory and, where they are missing, those above it. -/
def createDirectories (host : Host m) (path : String) : m (Except FileError Unit) :=
  host.ensureFirst (path :: (Path.ofText path).parents.map Path.text)

end Host

end Dbml.CommandLine
