import Dbml.Text.Camel

/-!
# Names in generated code

Classes, properties and fields take their names from tables.
-/

namespace Dbml.Naming

/-- A text with its first character in upper case. -/
def upperFirst : List Char → List Char
  | [] => []
  | c :: rest => Text.upper c ++ rest

/-- The class of a table: each part between underscores begins with a capital. -/
def className (table : String) : String :=
  String.ofList ((table.toList.splitOn '_').flatMap upperFirst)

/-- A name with its first character in lower case: `UserProfile` becomes `userProfile`. -/
def lowerFirst (name : String) : String :=
  match name.toList with
  | [] => ""
  | c :: rest => String.ofList (Text.lower c ++ rest)

/-- The name for several of a class: `UserProfile` becomes `userProfiles`. -/
def plural (name : String) : String :=
  let camel := lowerFirst name
  if camel.toList.getLast? = some 's' then camel else camel ++ "s"

/-- The relation field of a table: `user_profile` becomes `userProfile`. -/
def fieldName (table : String) : String :=
  String.ofList (Text.camelCase table.toList)

end Dbml.Naming
