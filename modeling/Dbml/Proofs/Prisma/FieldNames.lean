import Dbml.Proofs.Prisma.RelationFields
import Dbml.Proofs.Schema.MemberNames

/-!
# Names of fields

A scalar field has the name of its column, and the key of a junction is called `id`.  A relation
field is named for the table that its key leads to, and an inverse field for the table that has the
key; which of the keys between two tables it is for, the name does not say.

* `names_relations_model`, `names_inverses_model`: the names of relation fields and inverse fields,
  one for each key;
* `nodup_scalarNames_iff`: when the key of a junction is apart from its columns;
* `distinct_field_names_iff` puts them together.
-/

namespace Dbml.Prisma

/-- The names of all fields of a model, in their order. -/
def Model.fieldNames (model : Model) : List String :=
  model.scalars.map (·.name) ++ model.relations.map (·.name) ++ model.inverses.map (·.name)

/-- The name of a field for a key from or to the table. -/
def keyName (table : Table) : String :=
  Naming.fieldName table.name

/-- The names of the scalar fields of a table. -/
def scalarNames (table : Table) : List String :=
  (if isJunction table then ["id"] else []) ++ table.columns.map (·.name)

/-- The table that the relation field of a foreign key is for, if it has one. -/
def linkedTable? (schema : Schema) : Column × Reference → Option Table
  | (column, reference) =>
    if column.isManyToManyKey then none else schema.table? reference.table

/-- The tables that the foreign keys of a table lead to, one for each key that has a relation
field. -/
def linkedTables (schema : Schema) (table : Table) : List Table :=
  table.foreignKeys.filterMap (linkedTable? schema)

/-- The other tables with foreign keys to a table, one for each key that has an inverse field. -/
def linkingTables (schema : Schema) (table : Table) : List Table :=
  (schema.tables.filter fun other => other.name ≠ table.name).flatMap fun other =>
    (modelKeys other table).map fun _ => other

variable {options : GeneratorOptions} {schema : Schema} {table : Table}

theorem names_scalars_model (options : GeneratorOptions) (schema : Schema) (table : Table) :
    (model options schema table).value.scalars.map (·.name) = scalarNames table := by
  rw [scalars_model, scalarNames, List.map_append, List.map_map]
  cases isJunction table <;> rfl

theorem name_relationField? (schema : Schema) (key : Column × Reference) :
    (relationField? schema key).map (·.name) = (linkedTable? schema key).map keyName := by
  obtain ⟨column, reference⟩ := key
  rw [relationField?, linkedTable?]
  split
  · rfl
  · cases schema.table? reference.table <;> rfl

theorem names_relations_model (options : GeneratorOptions) (schema : Schema) (table : Table) :
    (model options schema table).value.relations.map (·.name) =
      (linkedTables schema table).map keyName := by
  rw [relations_model, linkedTables, List.map_filterMap, List.map_filterMap]
  exact List.filterMap_congr fun key _ => name_relationField? schema key

theorem names_inverses_model (options : GeneratorOptions) (schema : Schema) (table : Table) :
    (model options schema table).value.inverses.map (·.name) =
      (linkingTables schema table).map keyName := by
  rw [inverses_model, linkingTables, List.map_flatMap, List.map_flatMap]
  refine List.flatMap_congr fun other _ => ?_
  rw [List.map_map, List.map_map]
  exact List.map_congr_left fun key _ => rfl

/-- The key of a junction is the only scalar field whose name no column brings along. -/
theorem nodup_scalarNames_iff (hcolumns : (table.columns.map (·.name)).Nodup) :
    (scalarNames table).Nodup ↔
      (isJunction table = true → "id" ∉ table.columns.map (·.name)) := by
  rw [scalarNames]
  cases isJunction table with
  | true => simp [hcolumns]
  | false => simp [hcolumns]

/-- **When a model has distinct names.**  The fields of a model are written with their names.  Where
the columns of a table have distinct names, the fields of its model have too just if it is no
junction with a column `id`, and the names that are made for other tables are apart: those of the
tables that its foreign keys lead to, those of the tables that have foreign keys to it, and those of
scalar fields. -/
theorem distinct_field_names_iff (options : GeneratorOptions) (schema : Schema)
    (hcolumns : (table.columns.map (·.name)).Nodup) :
    (model options schema table).value.IsWritten ∧
      ((model options schema table).value.fieldNames.Nodup ↔
        (isJunction table = true → "id" ∉ table.columns.map (·.name)) ∧
          MembersApart (scalarNames table) (linkedTables schema table) (linkingTables schema table)
            keyName keyName) := by
  rw [Model.fieldNames, names_scalars_model, names_relations_model, names_inverses_model,
    nodup_memberNames_iff, nodup_scalarNames_iff hcolumns]
  exact ⟨isWritten _, Iff.rfl⟩

/-- Users in channels, and messages there from one user to another. -/
def messagesExample : Schema where
  tables :=
    [{ name := "users", columns := [{ name := "id", type := "int", primaryKey := true }] },
     { name := "channels", columns := [{ name := "id", type := "int", primaryKey := true }] },
     { name := "members"
       columns :=
        [{ name := "user", type := "int", reference := some { table := "users", column := "id" } },
         { name := "channel", type := "int"
           reference := some { table := "channels", column := "id" } }] },
     { name := "messages"
       columns :=
        [{ name := "id", type := "int", primaryKey := true },
         { name := "channel", type := "int"
           reference := some { table := "channels", column := "id" } },
         { name := "sender", type := "int"
           reference := some { table := "users", column := "id" } },
         { name := "receiver", type := "int"
           reference := some { table := "users", column := "id" } }] }]

/-- Members are a junction, whose model has distinct names. -/
theorem distinct_field_names_iff_of_members :
    ∃ members ∈ messagesExample.tables, members.name = "members" ∧ isJunction members = true ∧
      (members.columns.map (·.name)).Nodup ∧
      (model {} messagesExample members).value.fieldNames.Nodup := by
  refine ⟨messagesExample.tables[2], List.getElem_mem _, rfl, by decide, by decide, ?_⟩
  refine (distinct_field_names_iff {} messagesExample (by decide)).2.mpr ⟨by decide, ?_⟩
  exact ⟨by decide, by decide, by decide, by decide, by decide⟩

/-- **A model may have two fields of one name.**  Messages are a junction with a column `id`, and
two of their keys lead to users, so that messages have two fields `id` and two for users. -/
theorem two_fields_of_one_name :
    (messagesExample.tables.map (·.name)).Nodup ∧
      (∀ table ∈ messagesExample.tables, (table.columns.map (·.name)).Nodup) ∧
      ∃ messages ∈ messagesExample.tables,
        (model {} messagesExample messages).value.fieldNames =
          ["id", "id", "channel", "sender", "receiver", "channels", "users", "users"] ∧
        ¬ (model {} messagesExample messages).value.fieldNames.Nodup := by
  refine ⟨by decide, by decide, messagesExample.tables[3], List.getElem_mem _, ?_, ?_⟩
  · decide
  · decide

end Dbml.Prisma
