import Dbml.Json.Value

/-!
# Database schemas

A schema has tables with their columns, relations between columns, and the settings of the project.
Names need not be distinct: a name stands for the first table or column that bears it.
-/

namespace Dbml

/-! ### Cardinality -/

/-- How many rows one end of a relation may have. -/
inductive Multiplicity where
  | one
  | many
  deriving DecidableEq, Repr

/-- The multiplicities at the two ends of a relation. -/
structure Cardinality where
  source : Multiplicity
  target : Multiplicity
  deriving DecidableEq, Repr

namespace Cardinality

def oneToOne : Cardinality := ⟨.one, .one⟩
def oneToMany : Cardinality := ⟨.one, .many⟩
def manyToOne : Cardinality := ⟨.many, .one⟩
def manyToMany : Cardinality := ⟨.many, .many⟩

def isManyToMany (c : Cardinality) : Bool :=
  c == manyToMany

end Cardinality

/-- The operators between the endpoints of a relation. -/
inductive RelationOp where
  | oneToOne
  | oneToMany
  | manyToOne
  | manyToMany
  deriving DecidableEq, Repr

namespace RelationOp

/-- The cardinality that an operator states. -/
def cardinality : RelationOp → Cardinality
  | .oneToOne => .oneToOne
  | .oneToMany => .oneToMany
  | .manyToOne => .manyToOne
  | .manyToMany => .manyToMany

/-- The operator as it is written. -/
def symbol : RelationOp → String
  | .oneToOne => "-"
  | .oneToMany => "<"
  | .manyToOne => ">"
  | .manyToMany => "<>"

end RelationOp

/-- The operator for a cardinality. -/
def Cardinality.op : Cardinality → RelationOp
  | ⟨.one, .one⟩ => .oneToOne
  | ⟨.one, .many⟩ => .oneToMany
  | ⟨.many, .one⟩ => .manyToOne
  | ⟨.many, .many⟩ => .manyToMany

/-! ### Columns and tables -/

/-- What happens to a row when the row it refers to is changed or deleted. -/
inductive ReferentialAction where
  | cascade
  | setNull
  | setDefault
  | noAction
  | restrict
  deriving DecidableEq, Repr

/-- The default value of a column. -/
inductive DefaultValue where
  | bool (b : Bool)
  | number (n : Json.Number)
  | text (s : String)
  deriving DecidableEq, Repr

/-- A column of a table, by name. -/
structure Endpoint where
  table : String
  column : String
  deriving DecidableEq, Repr

/-- What a column refers to, which makes it a foreign key. -/
structure Reference where
  table : String
  column : String
  cardinality : Option Cardinality := none
  onUpdate : Option ReferentialAction := none
  onDelete : Option ReferentialAction := none
  deriving DecidableEq, Repr

/-- A column of a table. -/
structure Column where
  name : String
  type : String
  primaryKey : Bool := false
  unique : Bool := false
  /-- Whether the column may be null, if that is said at all. -/
  nullable : Option Bool := none
  note : Option String := none
  default : Option DefaultValue := none
  increment : Bool := false
  reference : Option Reference := none
  deriving DecidableEq, Repr

namespace Column

/-- The column is said to be nullable. -/
def isNullable (column : Column) : Bool :=
  column.nullable == some true

/-- The column refers to the given one. -/
def refersTo (column : Column) (endpoint : Endpoint) : Bool :=
  column.reference.any fun r => r.table == endpoint.table && r.column == endpoint.column

/-- A foreign key that at most one row has for each row it refers to: one that is unique or declared
so. -/
def isOneToOneKey (column : Column) : Bool :=
  column.reference.any fun r => column.unique || r.cardinality == some .oneToOne

/-- A foreign key that is declared many-to-many. -/
def isManyToManyKey (column : Column) : Bool :=
  column.reference.any fun r => r.cardinality.any Cardinality.isManyToMany

end Column

/-- A table. -/
structure Table where
  name : String
  /-- Another name by which relations may refer to the table. -/
  aliasName : Option String := none
  columns : List Column := []
  deriving DecidableEq, Repr

namespace Table

/-- The first column of a name. -/
def column? (table : Table) (name : String) : Option Column :=
  table.columns.find? (·.name = name)

/-- The columns that refer to another column, with their references. -/
def foreignKeys (table : Table) : List (Column × Reference) :=
  table.columns.filterMap fun column => column.reference.map (column, ·)

end Table

/-! ### Relations and schemas -/

/-- A relation from one column to another. -/
structure Relation where
  source : Endpoint
  target : Endpoint
  cardinality : Cardinality
  onUpdate : Option ReferentialAction := none
  onDelete : Option ReferentialAction := none
  deriving DecidableEq, Repr

namespace Relation

def isManyToMany (relation : Relation) : Bool :=
  relation.cardinality.isManyToMany

/-- The relations join the same columns, whatever else they say. -/
def sameEndpoints (a b : Relation) : Bool :=
  a.source == b.source && a.target == b.target

/-- The reference that a foreign key at the source of the relation has. -/
def reference (relation : Relation) : Reference where
  table := relation.target.table
  column := relation.target.column
  cardinality := some relation.cardinality
  onUpdate := relation.onUpdate
  onDelete := relation.onDelete

end Relation

/-- A relation as it is stated, with a name that a junction table for it takes. -/
structure NamedRelation where
  relation : Relation
  name : Option String := none
  deriving DecidableEq, Repr

/-- A database schema.  Its metadata are the settings of the project, missing when no project is
declared. -/
structure Schema where
  tables : List Table := []
  relations : List Relation := []
  metadata : Option (Keyed Json.Value) := none

namespace Schema

/-- The first table of a name. -/
def table? (schema : Schema) (name : String) : Option Table :=
  schema.tables.find? (·.name = name)

/-- A table bears the name. -/
def hasTable (schema : Schema) (name : String) : Bool :=
  schema.tables.any (·.name = name)

/-- The type of a column. -/
def columnType? (schema : Schema) (endpoint : Endpoint) : Option String := do
  let table ← schema.table? endpoint.table
  let column ← table.column? endpoint.column
  some column.type

/-- A setting of the project, if its value is a string. -/
def metadataText? (schema : Schema) (key : String) : Option String := do
  let value ← (← schema.metadata).lookup key
  value.string?

end Schema

/-! ### Changing the first of a name -/

/-- The list with the first element that satisfies `p` changed by `f`. -/
def updateFirst {α : Type} (p : α → Bool) (f : α → α) : List α → List α
  | [] => []
  | x :: rest => if p x then f x :: rest else x :: updateFirst p f rest

/-- The table with the first column of a name changed. -/
def Table.updateColumn (table : Table) (name : String) (f : Column → Column) : Table :=
  { table with columns := updateFirst (·.name = name) f table.columns }

/-- The schema with the first table of a name changed. -/
def Schema.updateTable (schema : Schema) (name : String) (f : Table → Table) : Schema :=
  { schema with tables := updateFirst (·.name = name) f schema.tables }

end Dbml
