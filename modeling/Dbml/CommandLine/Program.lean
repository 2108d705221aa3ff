import Dbml.CommandLine.Arguments
import Dbml.CommandLine.Host

/-!
# The command

The command reads a source, converts it and writes the files or prints them.  It does so on a
host that gives it access to files.  Its own part, what to read and write and what to say, does
not depend on where it runs.
-/

namespace Dbml.CommandLine

/-- What a run of the command comes to. -/
structure Outcome where
  code : Nat
  stdout : String := ""
  stderr : String := ""
  deriving DecidableEq, Repr

/-- The name and version of the command. -/
def versionText : String := "dbmlgen 0.1.0\n"

/-- A summary of the options. -/
def helpText : String :=
  "Usage: dbmlgen [OPTIONS] [INPUT]\n\n" ++
  "  -f, --format <FORMAT>  json, typeorm or prisma\n" ++
  "  -o, --output <DIR>     write files into this directory\n" ++
  "      --strict           fail on lines that cannot be parsed\n" ++
  "      --no-comments      leave notes out of generated code\n" ++
  "      --provider <NAME>  provider of the Prisma data source\n"

/-- The run failed for the given reason. -/
def failure (reason : String) : Outcome where
  code := 1
  stderr := reason ++ "\n"

/-- Several files as one text: each has its name in front of it and ends with a line feed. -/
def headedText (artifact : Artifact) : String :=
  "// " ++ artifact.filename ++ "\n" ++ artifact.content ++
    (if artifact.content.toList.getLast? = some '\n' then "" else "\n")

/-- What is printed for the files.  A single file is printed as it is. -/
def printed : List Artifact → String
  | [artifact] => artifact.content
  | artifacts => String.join (artifacts.map headedText)

section

variable {m : Type → Type} [Monad m]

/-- Writes files into a directory up to the first failure. -/
def writeArtifacts (host : Host m) (directory : String) : List Artifact → m Outcome
  | [] => return { code := 0 }
  | artifact :: rest => do
    let path := joinPath directory artifact.filename
    match ← host.writeFile path artifact.content with
    | .error error => return failure ("Failed to write " ++ path ++ ": " ++ error.message)
    | .ok () => writeArtifacts host directory rest

/-- Reads the input: a file, or standard input when none is named. -/
def readSource (host : Host m) (input : Option String) : m (Except FileError String) :=
  match input with
  | some name => if name = "-" then host.readInput else host.readFile name
  | none => host.readInput

/-- Writes the files of a conversion where the arguments want them. -/
def deliver (host : Host m) (output : Option String) (artifacts : List Artifact) : m Outcome :=
  match output with
  | none => return { code := 0, stdout := printed artifacts }
  | some directory => do
    match ← host.createDirectories directory with
    | .error error => return failure ("Failed to create " ++ directory ++ ": " ++ error.message)
    | .ok () => writeArtifacts host directory artifacts

/-- Converts the input that the arguments name. -/
def runConversion (host : Host m) (arguments : Arguments) : m Outcome := do
  match ← readSource host arguments.input with
  | .error error =>
    return failure ("Failed to read " ++ arguments.input.getD "stdin" ++ ": " ++ error.message)
  | .ok source =>
    let format := arguments.format.getD .json
    match (convert arguments.mode arguments.options format source.toList).outcome with
    | .error error => return failure ("Conversion error: " ++ error.message)
    | .ok artifacts => deliver host arguments.output artifacts

/-- Runs the command.  Wrong arguments give the code 2. -/
def run (host : Host m) (arguments : List String) : m Outcome :=
  match parse arguments with
  | .error error => return { code := 2, stderr := error.message ++ "\n" }
  | .ok .version => return { code := 0, stdout := versionText }
  | .ok .help => return { code := 0, stdout := helpText }
  | .ok (.convert arguments) => runConversion host arguments

end

end Dbml.CommandLine
