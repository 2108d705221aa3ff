import Dbml.Schema.Json

/-!
# Editing schemas

Edits name tables and columns, and change the first that bears the name.  An edit of something that
does not exist has no result.
-/

namespace Dbml.Schema

/-- The first column of a name in the first table of a name. -/
def column? (schema : Schema) (endpoint : Endpoint) : Option Column :=
  (schema.table? endpoint.table).bind (·.column? endpoint.column)

/-- The schema with another table at the end. -/
def addTable (schema : Schema) (table : Table) : Schema :=
  { schema with tables := schema.tables ++ [table] }

/-- The schema with a table renamed. -/
def renameTable? (schema : Schema) (name newName : String) : Option Schema :=
  (schema.table? name).map fun _ =>
    schema.updateTable name fun table => { table with name := newName }

/-- The schema with another column at the end of a table. -/
def addColumn? (schema : Schema) (table : String) (column : Column) : Option Schema :=
  (schema.table? table).map fun _ =>
    schema.updateTable table fun table => { table with columns := table.columns ++ [column] }

/-- The schema with a column replaced. -/
def replaceColumn (schema : Schema) (endpoint : Endpoint) (column : Column) : Schema :=
  schema.updateTable endpoint.table (·.updateColumn endpoint.column fun _ => column)

/-- The schema with another relation at the end. -/
def addRelation (schema : Schema) (relation : Relation) : Schema :=
  { schema with relations := schema.relations ++ [relation] }

end Dbml.Schema
