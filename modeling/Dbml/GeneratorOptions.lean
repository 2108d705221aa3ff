import Dbml.Schema.Basic

/-!
# Options of the generators
-/

namespace Dbml

/-- How code is generated. -/
structure GeneratorOptions where
  /-- Notes on columns become comments. -/
  comments : Bool := true
  /-- The provider of a Prisma data source; without one it follows from the project. -/
  provider : Option String := none

/-- The note on a column where comments are wanted. -/
def GeneratorOptions.comment? (options : GeneratorOptions) (column : Column) : Option String :=
  if options.comments then column.note else none

end Dbml
