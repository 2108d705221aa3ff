import Dbml.Proofs.Schema.MemberNames
import Dbml.Proofs.TypeOrm.PropertyTexts

/-!
# Names of properties

A property that holds a value has the name of its column.  All others are named for the class of
another table: in the singular (`singleName`) if the property is that of a foreign key, or for the
other direction of a key that is one-to-one, and in the plural (`pluralName`) for the other
direction of any other key.  Which of the keys between two tables it is for, the name does not say.

* `perm_names_columnProperties`: the names of the properties of columns, sorted into the two kinds;
* `names_reverseProperties`: those for the other direction;
* `distinct_property_names_iff` puts them together: an entity has no name twice just if the names
  that are made for tables are apart from one another and from those of the columns.
-/

namespace Dbml.TypeOrm

/-- The name of a property that holds one entity of the table. -/
def singleName (table : Table) : String :=
  Naming.lowerFirst (Naming.className table.name)

/-- The name of a property that holds several entities of the table. -/
def pluralName (table : Table) : String :=
  Naming.plural (Naming.className table.name)

/-- The columns of a table whose properties hold their values. -/
def valueColumns (table : Table) : List Column :=
  table.columns.filter holdsValue

/-- The name of the property for the other direction of a key. -/
def reverseName : Table × Column → String
  | (other, column) => if column.isOneToOneKey then singleName other else pluralName other

variable {options : GeneratorOptions} {schema : Schema} {table : Table} {column : Column}

theorem name_columnProperty?_of_not_holdsValue (h : holdsValue column = false) :
    (columnProperty? options schema table column).map (·.name) =
      (relatedTable? schema column).map singleName := by
  rw [columnProperty?_of_not_holdsValue h, relatedTable?, h, if_neg Bool.false_ne_true]
  cases column.reference with
  | none => rfl
  | some reference =>
      rw [Option.bind_some, Option.bind_some, Option.map_map]
      rfl

theorem relatedTable?_of_holdsValue (h : holdsValue column = true) :
    relatedTable? schema column = none :=
  if_pos h

/-- The names of the properties of columns: those of columns, and those of the tables they lead
to. -/
theorem perm_names_columnProperties (options : GeneratorOptions) (schema : Schema) (table : Table)
    (columns : List Column) :
    (columns.filterMap fun column =>
        (columnProperty? options schema table column).map (·.name)).Perm
      ((columns.filter holdsValue).map (·.name) ++
        (columns.filterMap (relatedTable? schema)).map singleName) := by
  induction columns with
  | nil => exact List.Perm.refl []
  | cons column rest ih =>
      cases hvalue : holdsValue column with
      | true =>
          rw [List.filterMap_cons, List.filterMap_cons, columnProperty?_of_holdsValue hvalue,
            relatedTable?_of_holdsValue hvalue, List.filter_cons_of_pos hvalue]
          exact ih.cons column.name
      | false =>
          rw [List.filterMap_cons, List.filterMap_cons,
            name_columnProperty?_of_not_holdsValue hvalue,
            List.filter_cons_of_neg (by simp [hvalue])]
          cases relatedTable? schema column with
          | none => exact ih
          | some related =>
              simp only [Option.map_some, List.map_cons]
              exact (ih.cons (singleName related)).trans List.perm_middle.symm

theorem name_reverseProperty (table other : Table) (column : Column) :
    (reverseProperty table other column).name = reverseName (other, column) := by
  -- the names are left as they are: unfolding `Naming.plural` is what makes `rfl` slow here
  simp only [reverseProperty, reverseName, singleName, pluralName]
  split <;> dsimp only

/-- The names of the properties for the other direction. -/
theorem names_reverseProperties (schema : Schema) (table : Table) :
    (reverseProperties schema table).map (·.name) = (reverseKeys schema table).map reverseName := by
  rw [reverseProperties, reverseKeys, List.map_flatMap, List.map_flatMap]
  refine List.flatMap_congr fun other _ => ?_
  rw [reversePropertiesFrom, List.map_map, List.map_map]
  exact List.map_congr_left fun key _ => name_reverseProperty table other key.1

/-- **When an entity has distinct names.**  The properties of an entity are written with their
names.  Where the columns of a table have distinct names, the properties of its entity have too just
if the names that are made for other tables are apart: those of the tables that its foreign keys
lead to, those for the foreign keys that lead to it, and those of the columns that hold values. -/
theorem distinct_property_names_iff (options : GeneratorOptions) (schema : Schema)
    (hcolumns : (table.columns.map (·.name)).Nodup) :
    (entity options schema table).value.IsWritten ∧
      (((entity options schema table).value.properties.map (·.name)).Nodup ↔
        MembersApart ((valueColumns table).map (·.name)) (relatedTables schema table)
          (reverseKeys schema table) singleName reverseName) := by
  have hperm : ((entity options schema table).value.properties.map (·.name)).Perm
      ((valueColumns table).map (·.name) ++ (relatedTables schema table).map singleName ++
        (reverseKeys schema table).map reverseName) := by
    rw [entity_properties, List.map_append, List.map_filterMap, names_reverseProperties]
    exact (perm_names_columnProperties options schema table table.columns).append_right _
  have hvalues : ((valueColumns table).map (·.name)).Nodup :=
    (List.filter_sublist.map _).nodup hcolumns
  rw [hperm.nodup_iff, nodup_memberNames_iff]
  exact ⟨isWritten _, and_iff_right hvalues⟩

/-- Users and posts, each of which has the keys to users. -/
def authorsExample (keys : List String) : Schema where
  tables :=
    [{ name := "users", columns := [{ name := "id", type := "int", primaryKey := true }] },
     { name := "posts"
       columns := { name := "id", type := "int", primaryKey := true } :: keys.map fun key =>
        { name := key, type := "int", reference := some { table := "users", column := "id" } } }]

/-- With one key to users, posts and users have distinct names. -/
theorem distinct_property_names_iff_of_author :
    ∃ users posts, (authorsExample ["author"]).tables = [users, posts] ∧
      (users.columns.map (·.name)).Nodup ∧ (posts.columns.map (·.name)).Nodup ∧
      ((entity {} (authorsExample ["author"]) users).value.properties.map (·.name)).Nodup ∧
      ((entity {} (authorsExample ["author"]) posts).value.properties.map (·.name)).Nodup := by
  refine ⟨_, _, rfl, by decide, by decide, ?_, ?_⟩
  · refine (distinct_property_names_iff {} (authorsExample ["author"]) (by decide)).2.mpr ?_
    exact ⟨by decide, by decide, by decide, by decide, by decide⟩
  · refine (distinct_property_names_iff {} (authorsExample ["author"]) (by decide)).2.mpr ?_
    exact ⟨by decide, by decide, by decide, by decide, by decide⟩

/-- **Two keys between the same tables share a name.**  Posts with an author and an editor have two
properties of one name for users, and users have two for posts, though all tables, classes and
columns have distinct names. -/
theorem two_properties_of_one_name :
    let schema := authorsExample ["author", "editor"]
    (schema.tables.map (·.name)).Nodup ∧
      (schema.tables.map fun table => Naming.className table.name).Nodup ∧
      (∀ table ∈ schema.tables, (table.columns.map (·.name)).Nodup) ∧
      ∀ table ∈ schema.tables,
        ¬ ((entity {} schema table).value.properties.map (·.name)).Nodup := by
  decide

end Dbml.TypeOrm
