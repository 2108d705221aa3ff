import Dbml.Text.Case

/-!
# Column types

Column types of databases are many, and the generators know only a few categories of them.  The
category of a type is told from words that occur in its name, and a column that records when a
row was changed from its own name as well.
-/

namespace Dbml

/-- The text `part` occurs in a text. -/
def Text.occurs (part : List Char) : List Char → Bool
  | [] => part.isEmpty
  | c :: rest => part.isPrefixOf (c :: rest) || Text.occurs part rest

/-- A category of column types. -/
inductive TypeCategory where
  | integer
  | string
  | date
  | boolean
  | float
  | json
  deriving DecidableEq, Repr

namespace TypeCategory

/-- The categories with the words that their types contain, in the order in which they are tried. -/
def table : List (TypeCategory × List String) :=
  [(.integer, ["int", "integer", "bigint", "smallint", "tinyint"]),
   (.string, ["varchar", "char", "text", "string"]),
   (.date, ["date", "datetime", "timestamp", "time"]),
   (.boolean, ["bool", "boolean"]),
   (.float, ["float", "double", "decimal", "real"]),
   (.json, ["json", "jsonb"])]

/-- The first category of which a word occurs in a type, in whatever case. -/
def ofType? (type : String) : Option TypeCategory :=
  let lower := Text.lowercase type.toList
  (table.find? fun entry => entry.2.any fun word => Text.occurs word.toList lower).map (·.1)

end TypeCategory

namespace ColumnType

/-- The type of a property in TypeScript. -/
def typeScript (type : String) : String :=
  match TypeCategory.ofType? type with
  | some .integer | some .float => "number"
  | some .string => "string"
  | some .date => "Date"
  | some .boolean => "boolean"
  | some .json => "Record<string, any>"
  | none => "string"

/-- The type of a column in a TypeORM entity. -/
def typeOrm (type : String) : String :=
  match TypeCategory.ofType? type with
  | some .integer => "int"
  | some .string => "varchar"
  | some .date =>
    let lower := Text.lowercase type.toList
    if Text.occurs "stamp".toList lower then "timestamp"
    else if Text.occurs "time".toList lower then "time"
    else "date"
  | some .boolean => "boolean"
  | some .float => "float"
  | some .json => "json"
  | none => "varchar"

/-- The type of a field in a Prisma model. -/
def prisma (type : String) : String :=
  match TypeCategory.ofType? type with
  | some .integer => "Int"
  | some .string => "String"
  | some .date => "DateTime"
  | some .boolean => "Boolean"
  | some .float => "Float"
  | some .json => "Json"
  | none => "String"

end ColumnType

/-- What a timestamp of a row records. -/
inductive TimestampKind where
  | created
  | updated
  | deleted
  deriving DecidableEq, Repr

namespace TimestampKind

/-- The types of timestamps. -/
def types : List String :=
  ["time", "timestamp", "timestamptz", "datetime"]

/-- The names of timestamps. -/
def names : List (TimestampKind × List String) :=
  [(.created, ["created_at", "createdat", "creation_date"]),
   (.updated, ["updated_at", "updatedat", "modification_date"]),
   (.deleted, ["deleted_at", "deletedat", "deletion_date"])]

/-- The kind of a column that is a timestamp both by its type and by its name, in whatever case. -/
def ofColumn? (name type : String) : Option TimestampKind :=
  if types.contains (Text.lowercaseString type) then
    (names.find? fun entry => entry.2.contains (Text.lowercaseString name)).map (·.1)
  else none

end TimestampKind

end Dbml
