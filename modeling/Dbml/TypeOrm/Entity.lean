import Dbml.ColumnType
import Dbml.Event
import Dbml.GeneratorOptions
import Dbml.TypeOrm.Decorator

/-!
# TypeORM entities

A table becomes an entity class.  Its columns become properties; a foreign key becomes a
property that holds the related entity, and the entity of the table it refers to gets a property
for the other direction.

An entity is put together property by property.  Beside each property it notes which decorators and
which other entities its file has to import.
-/

namespace Dbml.TypeOrm

/-- A property of an entity. -/
structure Property where
  comment : Option String := none
  decorators : List Decorator
  name : String
  type : String
  deriving DecidableEq, Repr

/-- The entity of a table, as far as it is put together. -/
structure Entity where
  table : String
  /-- The decorators that the file imports. -/
  decorators : DecoratorSet := .single .entity
  /-- The tables whose entities the file imports, in the order in which they are first used. -/
  related : List String := []
  properties : List Property := []
  deriving DecidableEq, Repr

namespace Entity

/-- The class of an entity. -/
def className (entity : Entity) : String :=
  Naming.className entity.table

/-- A decorator is used. -/
def use (entity : Entity) (kind : DecoratorKind) : Entity :=
  { entity with decorators := entity.decorators.insert kind }

/-- The entity of a table is used.  Its own is there, and no other is imported twice. -/
def refer (entity : Entity) (table : String) : Entity :=
  if table ≠ entity.table && !entity.related.contains table then
    { entity with related := entity.related ++ [table] }
  else entity

def push (entity : Entity) (property : Property) : Entity :=
  { entity with properties := entity.properties ++ [property] }

end Entity

/-! ### Properties of columns -/

/-- The property that holds the value of a column. -/
def valueProperty (options : GeneratorOptions) (column : Column) (decorator : Decorator) :
    Property where
  comment := options.comment? column
  decorators := [decorator]
  name := column.name
  type := ColumnType.typeScript column.type

namespace Entity

/-- The property of a column of the primary key. -/
def addKey (options : GeneratorOptions) (entity : Entity) (column : Column) : Entity :=
  if column.increment then
    (entity.use .primaryGeneratedColumn).push (valueProperty options column .primaryGeneratedColumn)
  else (entity.use .primaryColumn).push (valueProperty options column .primaryColumn)

/-- The property of a timestamp. -/
def addTimestamp (options : GeneratorOptions) (entity : Entity) (column : Column) :
    TimestampKind → Entity
  | .created => (entity.use .createDateColumn).push (valueProperty options column .createDateColumn)
  | .updated => (entity.use .updateDateColumn).push (valueProperty options column .updateDateColumn)
  | .deleted => (entity.use .deleteDateColumn).push (valueProperty options column .deleteDateColumn)

/-- The property of any other column that is no foreign key. -/
def addValue (options : GeneratorOptions) (entity : Entity) (column : Column) : Entity :=
  (entity.use .column).push <| valueProperty options column <|
    .column (ColumnType.typeOrm column.type) column.nullable column.unique column.default

/-- The decorators of a foreign key: that of the relation, and that of its column. -/
def relationDecorators (entity : Entity) (column : Column) (reference : Reference)
    (related : Table) : List Decorator × Entity :=
  let side (accessor : String) : Side :=
    { target := Naming.className related.name
      accessor
      onDelete := reference.onDelete
      onUpdate := reference.onUpdate }
  let (relation, entity) :=
    if column.isOneToOneKey then
      (Decorator.oneToOne (side (Naming.lowerFirst entity.className)), entity.use .oneToOne)
    else (Decorator.manyToOne (side (Naming.plural entity.className)), entity.use .manyToOne)
  ([relation, .joinColumn column.name], entity.use .joinColumn)

/-- The property of a foreign key, which holds the entity of the related table. -/
def addRelation (options : GeneratorOptions) (entity : Entity) (column : Column)
    (reference : Reference) (related : Table) : Entity :=
  let (decorators, entity) := entity.relationDecorators column reference related
  let target := Naming.className related.name
  (entity.refer related.name).push
    { comment := options.comment? column
      decorators
      name := Naming.lowerFirst target
      type := target }

/-- The property of a column, if it has one.  A many-to-many key that is part of the primary key
holds its value; a foreign key to a table that does not exist is left out. -/
def addColumn (options : GeneratorOptions) (schema : Schema) (entity : Entity) (column : Column) :
    Traced Entity :=
  if column.primaryKey && column.isManyToManyKey then return entity.addKey options column
  else
    match column.reference with
    | some reference =>
      match schema.table? reference.table with
      | none => do
        Traced.report (.entityKeySkipped entity.table column.name reference.table)
        return entity
      | some related => return entity.addRelation options column reference related
    | none =>
      if column.primaryKey then return entity.addKey options column
      else
        match TimestampKind.ofColumn? column.name column.type with
        | some kind => return entity.addTimestamp options column kind
        | none => return entity.addValue options column

/-! ### Properties for the other direction -/

/-- The property for the other direction of a foreign key of the table `other`. -/
def addReverse (entity : Entity) (other : Table) (column : Column) : Entity :=
  let target := Naming.className other.name
  let side : Side := { target, accessor := Naming.lowerFirst entity.className }
  let entity := entity.refer other.name
  if column.isOneToOneKey then
    (entity.use .oneToOne).push
      { decorators := [.oneToOne side]
        name := Naming.lowerFirst target
        type := target }
  else
    (entity.use .oneToMany).push
      { decorators := [.oneToMany side]
        name := Naming.plural target
        type := target ++ "[]" }

/-- The properties for the foreign keys that another table has to this one. -/
def addReversesFrom (entity : Entity) (other : Table) : Entity :=
  let keys := other.foreignKeys.filter fun (column, reference) =>
    reference.table = entity.table && !(column.primaryKey && column.isManyToManyKey)
  keys.foldl (fun entity (column, _) => entity.addReverse other column) entity

/-- The properties for the foreign keys of all other tables, in their order. -/
def addReverses (schema : Schema) (entity : Entity) : Entity :=
  (schema.tables.filter (·.name ≠ entity.table)).foldl addReversesFrom entity

end Entity

/-! ### Entities -/

/-- The entity of a table. -/
def entity (options : GeneratorOptions) (schema : Schema) (table : Table) : Traced Entity := do
  let entity ← table.columns.foldlM (Entity.addColumn options schema) { table := table.name }
  return entity.addReverses schema

/-- The entities of several tables. -/
def entities (options : GeneratorOptions) (schema : Schema) : List Table → Traced (List Entity)
  | [] => return []
  | table :: rest => do
    let first ← entity options schema table
    let others ← entities options schema rest
    return first :: others

end Dbml.TypeOrm
