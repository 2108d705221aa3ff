import Dbml.CommandLine.Program

/-!
# Workspaces

A workspace is a directory of text files as a value.  The command can run in it as it runs on a file
system, and what it has written can be seen afterwards.  Paths can lead out of the workspace, to the
directories above it or to the top of all directories, where next to nothing is known to exist.
-/

namespace Dbml.CommandLine

/-- Where places are counted from: the top of all directories, or the directory so many levels above
the workspace. -/
inductive Base where
  | top
  | above (levels : Nat)
  deriving DecidableEq, Repr

/-- A file or directory: the names that lead down to it from a base. -/
structure Place where
  base : Base := .above 0
  names : List String := []
  deriving DecidableEq, Repr

namespace Place

/-- The place of a name in a directory. -/
def down (place : Place) (name : String) : Place :=
  { place with names := place.names ++ [name] }

/-- The directory above a place.  Above the top there is nothing else. -/
def up (place : Place) : Place :=
  match place.base, place.names with
  | .above levels, [] => { base := .above (levels + 1) }
  | base, names => { base, names := names.dropLast }

/-- The path of a place from the workspace, if it is in it. -/
def path? (place : Place) : Option String :=
  if place.base = .above 0 then some ("/".intercalate place.names) else none

/-- The places between a base and a place. -/
def between (place : Place) : List Place :=
  ((List.range place.names.length).drop 1).map fun n =>
    { place with names := place.names.take n }

end Place

/-- A directory with its files and directories at any depth, and what is known of its
surroundings. -/
structure Workspace where
  input : String := ""
  directories : List Place := []
  files : List (Place × String) := []

namespace Workspace

/-- The directory of devices. -/
def devices : Place := { base := .top, names := ["dev"] }

/-- A workspace with the given files, by their paths, and the text of standard input.  Among the
devices are a file that is always empty and one that holds standard input. -/
def ofFiles (input : String) (files : List (String × String)) : Workspace :=
  let placed := files.map fun (path, text) =>
    ({ names := (Path.ofText path).names.filter (· ≠ ".") : Place }, text)
  { input
    directories := devices :: (placed.flatMap fun (place, _) => place.between).eraseDups
    files := (devices.down "null", "") :: (devices.down "stdin", input) :: placed }

/-- The bases of all places are directories. -/
def isDirectory (workspace : Workspace) (place : Place) : Bool :=
  place.names.isEmpty || workspace.directories.contains place

def isFile (workspace : Workspace) (place : Place) : Bool :=
  workspace.files.any (·.1 == place)

/-! ### Where paths lead -/

/-- The longest name, in bytes. -/
def maxNameSize : Nat := 255

/-- The longest path, in bytes. -/
def maxPathSize : Nat := 4095

/-- Where a name leads from a directory. -/
def follow (here : Place) (name : String) : Except FileError Place :=
  if name = "." then .ok here
  else if name = ".." then .ok here.up
  else if maxNameSize < name.utf8ByteSize then .error .nameTooLong
  else .ok (here.down name)

/-- Where names lead from a directory, all of which have to name directories. -/
def walk (workspace : Workspace) (here : Place) : List String → Except FileError Place
  | [] => .ok here
  | name :: rest => do
    let next ← follow here name
    if workspace.isDirectory next then walk workspace next rest
    else if workspace.isFile next then .error .notADirectory
    else .error .notFound

/-- Where a path leads. -/
structure Target where
  place : Place
  /-- The path ends with the name of the place, and not with dots. -/
  named : Bool
  /-- The place has to be a directory. -/
  asDirectory : Bool

/-- Where a path leads.  The place itself need not exist, but the directories on the way to it
have to. -/
def locate (workspace : Workspace) (text : String) : Except FileError Target :=
  let path := Path.ofText text
  let start : Place := { base := if path.absolute then .top else .above 0 }
  if text.toList.contains '\x00' then .error .zeroInName
  else if text.isEmpty then .error .notFound
  else if maxPathSize < text.utf8ByteSize then .error .nameTooLong
  else
    match path.names.getLast? with
    | none => .ok { place := start, named := false, asDirectory := true }
    | some name => do
      let here ← workspace.walk start path.names.dropLast
      let place ← follow here name
      .ok { place, named := name ≠ "." && name ≠ "..", asDirectory := path.trailingSlash }

/-! ### Operations -/

/-- A directory is at the end of a path. -/
def isDirectoryAt (workspace : Workspace) (path : String) : Bool :=
  match workspace.locate path with
  | .ok target => workspace.isDirectory target.place
  | .error _ => false

/-- The text of a file. -/
def readFile (workspace : Workspace) (path : String) : Except FileError String := do
  let target ← workspace.locate path
  match workspace.files.lookup target.place with
  | some text => if target.asDirectory then .error .notADirectory else .ok text
  | none => .error (if workspace.isDirectory target.place then .isADirectory else .notFound)

/-- The workspace with another directory. -/
def makeDirectory (workspace : Workspace) (path : String) : Except FileError Workspace := do
  let target ← workspace.locate path
  let place := target.place
  if !target.named || workspace.isDirectory place || workspace.isFile place then
    .error .alreadyExists
  else .ok { workspace with directories := workspace.directories ++ [place] }

/-- The workspace with a file written, in place of an earlier one if there is one. -/
def writeFile (workspace : Workspace) (path text : String) : Except FileError Workspace := do
  let target ← workspace.locate path
  let place := target.place
  if target.asDirectory || workspace.isDirectory place then .error .isADirectory
  else .ok { workspace with files := workspace.files.filter (·.1 != place) ++ [(place, text)] }

/-- Makes a change, or says why it fails. -/
def attempt (change : Workspace → Except FileError Workspace) :
    StateM Workspace (Except FileError Unit) := do
  match change (← get) with
  | .ok changed =>
    set changed
    return .ok ()
  | .error error => return .error error

/-- The workspace as a host of the command. -/
def host : Host (StateM Workspace) where
  readInput := return .ok (← get).input
  readFile path := return (← get).readFile path
  isDirectory path := return (← get).isDirectoryAt path
  makeDirectory path := attempt (·.makeDirectory path)
  writeFile path text := attempt (·.writeFile path text)

/-- The files that are there now but were not there earlier. -/
def filesSince (workspace earlier : Workspace) : List (Place × String) :=
  workspace.files.filter fun (place, _) => !earlier.isFile place

end Workspace

/-- Runs the command in a workspace. -/
def runIn (workspace : Workspace) (arguments : List String) : Outcome × Workspace :=
  (run Workspace.host arguments).run workspace

end Dbml.CommandLine
