/-!
# Paths

A path leads from one directory to the next by names with slashes between them.  A single dot stays
where it is, and two dots lead to the directory above.
-/

namespace Dbml.CommandLine

/-- A path, of which only the names and the slashes at its two ends matter. -/
structure Path where
  /-- The path begins at the top of all directories. -/
  absolute : Bool
  names : List String
  /-- The path says that it leads to a directory. -/
  trailingSlash : Bool := false
  deriving DecidableEq, Repr

namespace Path

/-- The path that is written as `text`.  Several slashes in a row count as one. -/
def ofText (text : String) : Path where
  absolute := text.toList.head? = some '/'
  names := ((text.toList.splitOn '/').map String.ofList).filter (· ≠ "")
  trailingSlash := text.toList.getLast? = some '/'

/-- The path as it is written. -/
def text (path : Path) : String :=
  (if path.absolute then "/" else "") ++ "/".intercalate path.names ++
    (if path.trailingSlash && !path.names.isEmpty then "/" else "")

/-- The names of a path without single dots, except for one that a relative path begins with. -/
def steps (path : Path) : List String :=
  match path.names with
  | [] => []
  | name :: rest =>
    (if path.absolute && name = "." then [] else [name]) ++ rest.filter (· ≠ ".")

/-- The paths of the directories above, the nearest one first. -/
def parents (path : Path) : List Path :=
  let leading := ((List.range path.steps.length).map path.steps.take).reverse
  (leading.filter fun names => path.absolute || !names.isEmpty).map fun names =>
    { absolute := path.absolute, names }

end Path

/-- The path of something within a directory.  An absolute one does not need the directory. -/
def joinPath (directory name : String) : String :=
  if name.toList.head? = some '/' then name
  else if directory.toList.getLast? = some '/' then directory ++ name
  else directory ++ "/" ++ name

end Dbml.CommandLine
