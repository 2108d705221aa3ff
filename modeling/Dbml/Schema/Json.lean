import Dbml.Json.Printer
import Dbml.Json.Record
import Dbml.Schema.Action

/-!
# Schemas in JSON

Each part of a schema is written as an object.  Flags that are not set and options that say nothing
are left out, except for the alias of a table.  Reading takes back what is written.
-/

namespace Dbml

open Json (Node Record Value flagField optionalField)

/-! ### Multiplicities, cardinalities and actions -/

namespace Multiplicity

/-- The word for a multiplicity. -/
def word : Multiplicity → String
  | .one => "one"
  | .many => "many"

def toJson (m : Multiplicity) : Value := .string m.word

def ofJson? (node : Node) : Option Multiplicity := do
  let word ← node.word?
  if word = "one" then some .one else if word = "many" then some .many else none

end Multiplicity

namespace Cardinality

def toJson (c : Cardinality) : Value :=
  .object [("from", c.source.toJson), ("to", c.target.toJson)]

def ofJson? (node : Node) : Option Cardinality := do
  let record ← Record.ofNode? ["from", "to"] node
  let source ← record.required? "from" Multiplicity.ofJson?
  let target ← record.required? "to" Multiplicity.ofJson?
  some { source, target }

end Cardinality

namespace ReferentialAction

def toJson (action : ReferentialAction) : Value := .string action.sql

def ofJson? (node : Node) : Option ReferentialAction :=
  node.word?.bind ofSql?

end ReferentialAction

/-! ### Columns -/

namespace DefaultValue

def toJson : DefaultValue → Value
  | .bool b => .bool b
  | .number n => .number n
  | .text s => .string s

def ofJson? : Node → Option DefaultValue
  | .bool b => some (.bool b)
  | .number n => n.map .number
  | .string s => s.map .text
  | _ => none

/-- A default as a literal: texts stand between quotes, numbers and truth values do not. -/
def literal (value : DefaultValue) : String :=
  value.toJson.compactText

end DefaultValue

namespace Reference

def toJson (r : Reference) : Value :=
  .object ([("table", .string r.table), ("column", .string r.column)] ++
    optionalField "cardinality" Cardinality.toJson r.cardinality ++
    optionalField "onUpdate" ReferentialAction.toJson r.onUpdate ++
    optionalField "onDelete" ReferentialAction.toJson r.onDelete)

def ofJson? (node : Node) : Option Reference := do
  let record ← Record.ofNode? ["table", "column", "cardinality", "onUpdate", "onDelete"] node
  let table ← record.required? "table" Node.string?
  let column ← record.required? "column" Node.string?
  let cardinality ← record.optional? "cardinality" Cardinality.ofJson?
  let onUpdate ← record.optional? "onUpdate" ReferentialAction.ofJson?
  let onDelete ← record.optional? "onDelete" ReferentialAction.ofJson?
  some { table, column, cardinality, onUpdate, onDelete }

end Reference

namespace Column

/-- The fields of a column in the order in which they are written. -/
def fieldNames : List String :=
  ["name", "type", "pk", "unique", "nullable", "note", "default", "increment", "ref"]

/-- The fields that are written for a column. -/
def toFields (column : Column) : List (String × Value) :=
  [("name", .string column.name), ("type", .string column.type)] ++
    flagField "pk" column.primaryKey ++
    flagField "unique" column.unique ++
    optionalField "nullable" Value.bool column.nullable ++
    optionalField "note" Value.string column.note ++
    optionalField "default" DefaultValue.toJson column.default ++
    flagField "increment" column.increment ++
    optionalField "ref" Reference.toJson column.reference

def toJson (column : Column) : Value := .object column.toFields

def ofJson? (node : Node) : Option Column := do
  let record ← Record.ofNode? fieldNames node
  let name ← record.required? "name" Node.string?
  let type ← record.required? "type" Node.string?
  let primaryKey ← record.flag? "pk"
  let unique ← record.flag? "unique"
  let nullable ← record.optional? "nullable" Node.bool?
  let note ← record.optional? "note" Node.string?
  let default ← record.optional? "default" DefaultValue.ofJson?
  let increment ← record.flag? "increment"
  let reference ← record.optional? "ref" Reference.ofJson?
  some { name, type, primaryKey, unique, nullable, note, default, increment, reference }

/-- The column with one of its fields set to a JSON value; none when the value does not fit. -/
def withField? (column : Column) (field : String) (value : Value) : Option Column :=
  ofJson? (Node.ofValue (.object (Keyed.set field value column.toFields)))

end Column

/-! ### Tables, relations and schemas -/

namespace Table

def toJson (table : Table) : Value :=
  .object
    [("name", .string table.name),
     ("alias", match table.aliasName with | some name => .string name | none => .null),
     ("columns", .array (table.columns.map Column.toJson))]

def ofJson? (node : Node) : Option Table := do
  let record ← Record.ofNode? ["name", "alias", "columns"] node
  let name ← record.required? "name" Node.string?
  let aliasName ← record.optional? "alias" Node.string?
  let columns ← record.required? "columns" (Node.list? Column.ofJson?)
  some { name, aliasName, columns }

end Table

namespace Endpoint

def toJson (endpoint : Endpoint) : Value :=
  .object [("table", .string endpoint.table), ("column", .string endpoint.column)]

def ofJson? (node : Node) : Option Endpoint := do
  let record ← Record.ofNode? ["table", "column"] node
  let table ← record.required? "table" Node.string?
  let column ← record.required? "column" Node.string?
  some { table, column }

end Endpoint

namespace Relation

def toJson (r : Relation) : Value :=
  .object ([("from", r.source.toJson), ("to", r.target.toJson),
      ("cardinality", r.cardinality.toJson)] ++
    optionalField "onUpdate" ReferentialAction.toJson r.onUpdate ++
    optionalField "onDelete" ReferentialAction.toJson r.onDelete)

def ofJson? (node : Node) : Option Relation := do
  let record ← Record.ofNode? ["from", "to", "cardinality", "onUpdate", "onDelete"] node
  let source ← record.required? "from" Endpoint.ofJson?
  let target ← record.required? "to" Endpoint.ofJson?
  let cardinality ← record.required? "cardinality" Cardinality.ofJson?
  let onUpdate ← record.optional? "onUpdate" ReferentialAction.ofJson?
  let onDelete ← record.optional? "onDelete" ReferentialAction.ofJson?
  some { source, target, cardinality, onUpdate, onDelete }

end Relation

namespace Schema

def toJson (schema : Schema) : Value :=
  .object ([("tables", .array (schema.tables.map Table.toJson)),
      ("relations", .array (schema.relations.map Relation.toJson))] ++
    optionalField "metadata" Value.object schema.metadata)

/-- The settings of a project within a schema, which is itself one level deep. -/
def metadataOfJson? (node : Node) : Option (List (String × Value)) := do
  match ← node.toValue? (Json.maxDepth - 1) with
  | .object fields => some fields
  | _ => none

def ofJson? (node : Node) : Option Schema := do
  let record ← Record.ofNode? ["tables", "relations", "metadata"] node
  let tables ← record.required? "tables" (Node.list? Table.ofJson?)
  let relations ← record.required? "relations" (Node.list? Relation.ofJson?)
  let metadata ← record.optional? "metadata" metadataOfJson?
  some { tables, relations, metadata }

/-- The schema as a JSON text over several lines. -/
def jsonText (schema : Schema) : String :=
  schema.toJson.prettyText

/-- The schema that a JSON text says; none when the text is malformed or says something else. -/
def readJson? (text : String) : Option Schema :=
  (Json.read? text.toList).bind ofJson?

/-- Reading the JSON text of the schema gives it back, up to the sign of zeros. -/
def survivesJson (schema : Schema) : Bool :=
  (readJson? schema.jsonText).any fun again => again.toJson.numericEq schema.toJson

end Schema

end Dbml
