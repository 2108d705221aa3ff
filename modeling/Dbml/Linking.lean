import Dbml.Event

/-!
# Linking relations and columns

A scanned schema is completed from the relations that the source states:

* names of tables that are aliases are replaced by the names they stand for;
* a many-to-many relation gets a junction table, whose foreign keys are its primary key;
* the source of any other relation gets a foreign key;
* of relations between the same columns only the first is kept.
-/

namespace Dbml.Linking

/-! ### Aliases -/

/-- The name that a name stands for: its own table if there is one, and else the last table that has
it for an alias. -/
def resolveName (tables : List Table) (name : String) : String :=
  if tables.any (·.name = name) then name
  else
    match tables.reverse.find? (·.aliasName = some name) with
    | some table => table.name
    | none => name

/-- The endpoint with its table's name resolved. -/
def resolveEndpoint (tables : List Table) (endpoint : Endpoint) : Endpoint :=
  { endpoint with table := resolveName tables endpoint.table }

/-- The relation with the names at both ends resolved. -/
def resolveRelation (tables : List Table) (named : NamedRelation) : NamedRelation :=
  { named with
    relation :=
      { named.relation with
        source := resolveEndpoint tables named.relation.source
        target := resolveEndpoint tables named.relation.target } }

/-- The column with the name in its reference resolved. -/
def resolveColumn (tables : List Table) (column : Column) : Column :=
  { column with
    reference := column.reference.map fun r => { r with table := resolveName tables r.table } }

/-- The tables with the names in all references resolved. -/
def resolveTables (tables : List Table) : List Table :=
  tables.map fun table => { table with columns := table.columns.map (resolveColumn tables) }

/-! ### Junction tables -/

/-- The type of the column that a foreign key refers to, `int` if there is no such column. -/
def keyType (schema : Schema) (endpoint : Endpoint) : String :=
  (schema.columnType? endpoint).getD "int"

/-- The foreign key of a junction table to one endpoint of its relation. -/
def junctionColumn (schema : Schema) (relation : Relation) (endpoint : Endpoint) : Column where
  name := endpoint.table ++ "_" ++ endpoint.column
  type := keyType schema endpoint
  primaryKey := true
  reference := some
    { table := endpoint.table
      column := endpoint.column
      cardinality := some .manyToOne
      onUpdate := relation.onUpdate
      onDelete := relation.onDelete }

/-- The name of the junction table of a relation: its own, or else those of the two tables. -/
def junctionName (named : NamedRelation) : String :=
  named.name.getD (named.relation.source.table ++ "_" ++ named.relation.target.table)

/-- The column as part of the primary key if it refers to an endpoint of the relation. -/
def promote (relation : Relation) (column : Column) : Column :=
  if column.refersTo relation.source || column.refersTo relation.target then
    { column with primaryKey := true }
  else column

/-- The foreign keys to the endpoints of a relation that a junction table lacks. -/
def missingColumns (schema : Schema) (relation : Relation) (table : Table) : List Column :=
  ([relation.source, relation.target].filter fun endpoint =>
    !table.columns.any (·.refersTo endpoint)).map (junctionColumn schema relation)

/-- Makes sure that a table of the relation's junction name has foreign keys to both endpoints,
all of them in its primary key. -/
def linkJunction (schema : Schema) (named : NamedRelation) : Traced Schema :=
  let relation := named.relation
  let name := junctionName named
  match schema.table? name with
  | none => do
    Traced.report (.junctionTableCreated name)
    let columns := [relation.source, relation.target].map (junctionColumn schema relation)
    return { schema with tables := schema.tables ++ [{ name, columns }] }
  | some table => do
    let missing := missingColumns schema relation table
    missing.forM fun column => Traced.report (.junctionColumnAdded name column.name)
    return schema.updateTable name fun table =>
      { table with columns := table.columns.map (promote relation) ++ missing }

/-! ### Foreign keys -/

/-- The column with the reference of a relation, unless it has one already. -/
def attach (relation : Relation) (column : Column) : Column :=
  match column.reference with
  | some _ => column
  | none => { column with reference := some relation.reference }

/-- Makes sure that the source of a relation, if its table exists, is a foreign key. -/
def linkForeignKey (schema : Schema) (relation : Relation) : Traced Schema :=
  let { table := tableName, column := columnName } := relation.source
  match schema.table? tableName with
  | none => return schema
  | some table =>
    match table.column? columnName with
    | some _ => return schema.updateTable tableName (·.updateColumn columnName (attach relation))
    | none => do
      Traced.report (.foreignKeyAdded tableName columnName)
      let column : Column :=
        { name := columnName
          type := keyType schema relation.target
          reference := some relation.reference }
      return schema.updateTable tableName fun table =>
        { table with columns := table.columns ++ [column] }

/-! ### Duplicates -/

/-- The relations behind `kept` that do not join the same columns as an earlier one. -/
def dropDuplicates (kept : List Relation) : List Relation → Traced (List Relation)
  | [] => return kept
  | relation :: rest =>
    if kept.any (·.sameEndpoints relation) then do
      Traced.report (.duplicateRelationDropped relation.source.table relation.target.table)
      dropDuplicates kept rest
    else dropDuplicates (kept ++ [relation]) rest

/-! ### All together -/

/-- Applies one step for each element of a list, in order. -/
def linkEach {α : Type} (step : Schema → α → Traced Schema) (schema : Schema) :
    List α → Traced Schema
  | [] => return schema
  | x :: rest => do linkEach step (← step schema x) rest

/-- The schema completed from the relations that a source states. -/
def link (schema : Schema) (stated : List NamedRelation) : Traced Schema := do
  let relations := stated.map (resolveRelation schema.tables)
  let resolved := { schema with tables := resolveTables schema.tables }
  let joined ← linkEach linkJunction resolved (relations.filter (·.relation.isManyToMany))
  let keyed ← linkEach linkForeignKey joined
    ((relations.filter (!·.relation.isManyToMany)).map (·.relation))
  let kept ← dropDuplicates [] (relations.map (·.relation))
  return { keyed with relations := kept }

end Dbml.Linking
