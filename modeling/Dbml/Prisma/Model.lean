import Dbml.ColumnType
import Dbml.Event
import Dbml.GeneratorOptions
import Dbml.Naming
import Dbml.Schema.Json

/-!
# Prisma models

A table becomes a model.  Its columns become scalar fields; each foreign key gives a relation
field in the model of its own table and an inverse field in the model of the table it refers to.
-/

namespace Dbml

namespace Prisma

/-- The default of a field. -/
inductive FieldDefault where
  | autoincrement
  | now
  | literal (text : String)
  deriving DecidableEq, Repr

/-- An attribute of a scalar field. -/
inductive Attribute where
  | id
  | unique
  | default (value : FieldDefault)
  | updatedAt
  | map (column : String)
  deriving DecidableEq, Repr

/-- A field that holds a column. -/
structure ScalarField where
  comment : Option String := none
  name : String
  type : String
  optional : Bool := false
  attributes : List Attribute := []
  deriving DecidableEq, Repr

/-- The field of a foreign key in the model of its own table. -/
structure RelationField where
  name : String
  model : String
  optional : Bool
  column : String
  reference : Reference
  deriving DecidableEq, Repr

/-- The field of a foreign key in the model of the table it refers to. -/
structure InverseField where
  name : String
  model : String
  /-- One row at most, rather than a list. -/
  single : Bool
  deriving DecidableEq, Repr

/-- The model of a table. -/
structure Model where
  name : String
  scalars : List ScalarField
  relations : List RelationField
  inverses : List InverseField
  deriving DecidableEq, Repr

/-! ### Scalar fields -/

/-- A junction has foreign keys to two or more tables. -/
def isJunction (table : Table) : Bool :=
  2 ≤ (table.foreignKeys.map (·.2.table)).eraseDups.length

/-- The kind of a column whose value the database keeps up to date. -/
def managedKind? (column : Column) : Option TimestampKind :=
  (TimestampKind.ofColumn? column.name column.type).filter (· != .deleted)

/-- The attributes of a column's field.  In a junction the columns are no primary keys. -/
def attributes (column : Column) (junction : Bool) : List Attribute :=
  let kind := managedKind? column
  let id := if column.primaryKey && !junction then [Attribute.id] else []
  let counter :=
    if column.primaryKey && !junction && column.increment then [Attribute.default .autoincrement]
    else []
  let unique := if column.unique && !column.primaryKey then [Attribute.unique] else []
  let default :=
    match column.default with
    | some value =>
      if !column.increment && kind.isNone then [Attribute.default (.literal value.literal)] else []
    | none => []
  let managed :=
    match kind with
    | some .created => [Attribute.default .now]
    | some .updated => [Attribute.updatedAt]
    | _ => []
  let map := if column.name.toList.contains '_' then [Attribute.map column.name] else []
  id ++ counter ++ unique ++ default ++ managed ++ map

/-- The field of a column. -/
def scalarField (options : GeneratorOptions) (junction : Bool) (column : Column) : ScalarField where
  comment := options.comment? column
  name := column.name
  type := ColumnType.prisma column.type
  optional := column.isNullable && column.default.isNone && (managedKind? column).isNone
  attributes := attributes column junction

/-- The key that the model of a junction has in place of its columns. -/
def junctionKey : ScalarField where
  name := "id"
  type := "Int"
  attributes := [.id, .default .autoincrement]

/-! ### Relation fields -/

/-- The relation fields of a table's own foreign keys.  Many-to-many keys have none, and a key to a
table that does not exist is left out. -/
def relationFields (schema : Schema) (table : Table) :
    List (Column × Reference) → Traced (List RelationField)
  | [] => return []
  | (column, reference) :: rest =>
    if column.isManyToManyKey then relationFields schema table rest
    else
      match schema.table? reference.table with
      | none => do
        Traced.report (.modelKeySkipped table.name column.name)
        relationFields schema table rest
      | some related => do
        let others ← relationFields schema table rest
        let field : RelationField :=
          { name := Naming.fieldName related.name
            model := Naming.className related.name
            optional := column.isNullable
            column := column.name
            reference }
        return field :: others

/-- The inverse fields that the foreign keys of another table give a table. -/
def inverseFieldsFrom (table other : Table) : List InverseField :=
  (other.foreignKeys.filter fun (column, reference) =>
    reference.table = table.name && !column.isManyToManyKey).map fun (column, _) =>
      { name := Naming.fieldName other.name
        model := Naming.className other.name
        single := column.isOneToOneKey }

/-- The inverse fields of a table, in the order of the other tables. -/
def inverseFields (schema : Schema) (table : Table) : List InverseField :=
  (schema.tables.filter fun other => other.name ≠ table.name).flatMap (inverseFieldsFrom table)

/-! ### Models -/

/-- The model of a table. -/
def model (options : GeneratorOptions) (schema : Schema) (table : Table) : Traced Model := do
  let junction := isJunction table
  let relations ← relationFields schema table table.foreignKeys
  return {
    name := Naming.className table.name
    scalars := (if junction then [junctionKey] else []) ++
      table.columns.map (scalarField options junction)
    relations
    inverses := inverseFields schema table }

/-- The models of several tables. -/
def models (options : GeneratorOptions) (schema : Schema) : List Table → Traced (List Model)
  | [] => return []
  | table :: rest => do
    let first ← model options schema table
    let others ← models options schema rest
    return first :: others

/-! ### Providers -/

/-- The provider for a kind of database, named in lower case. -/
def providerOf? (database : String) : Option String :=
  match database with
  | "postgresql" | "postgres" => some "postgresql"
  | "mysql" => some "mysql"
  | "sqlite" => some "sqlite"
  | "sql server" | "sqlserver" | "mssql" => some "sqlserver"
  | "mongodb" => some "mongodb"
  | "cockroachdb" => some "cockroachdb"
  | _ => none

/-- The provider where nothing else is known. -/
def defaultProvider : String := "postgresql"

/-- The provider of the data source: the one that is asked for, or else the one for the database of
the project. -/
def provider (options : GeneratorOptions) (schema : Schema) : Traced String :=
  match options.provider, schema.metadataText? "database_type" with
  | some provider, _ => return provider
  | none, none => return defaultProvider
  | none, some database =>
    let database := String.ofList (Text.lowercase (Text.trim database.toList))
    match providerOf? database with
    | some provider => return provider
    | none => do
      Traced.report (.unknownDatabaseType database)
      return defaultProvider

end Prisma

end Dbml
