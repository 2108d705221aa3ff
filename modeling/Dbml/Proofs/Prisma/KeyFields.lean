import Dbml.Proofs.Prisma.KeysAndDefaults

/-!
# The column of a foreign key and its relation

A foreign key that has a relation field has a scalar field as well, for the column itself.  The two
are made apart from each other: the relation field is optional just if the column is said to be
nullable, whereas the scalar field is not if the column has a default or is kept up to date by the
database.  So too with the inverse field, which is single for a key that is unique or declared
one-to-one, while only what is said of the column keeps the values of its field apart.

* `optional_iff`: when the two fields of a key agree on whether they are optional;
* `isKey_scalarField`: when the values of a field are kept apart, by `@id` or `@unique`;
* `inverseField_mem_model`: the models that have an inverse field for a key.

`key_fields_fit_iff` puts them together.
-/

namespace Dbml.Prisma

/-- The values of the field are kept apart. -/
def ScalarField.isKey (field : ScalarField) : Bool :=
  field.isId || field.attributes.contains .unique

/-- The tables whose models have an inverse field for a foreign key of the table. -/
def inverseTables (schema : Schema) (table : Table) (key : Column × Reference) : List Table :=
  schema.tables.filter fun related => related.name ≠ table.name ∧ isModelKey related key

variable {options : GeneratorOptions} {schema : Schema} {table related : Table} {column : Column}
  {reference : Reference} {key : Column × Reference} {field : RelationField} {junction : Bool}

/-! ### Optional fields -/

theorem optional_relationField? (hfield : relationField? schema key = some field) :
    field.optional = key.1.isNullable := by
  obtain ⟨column, reference⟩ := key
  rw [relationField?] at hfield
  split at hfield
  · contradiction
  · obtain ⟨related, -, rfl⟩ := Option.map_eq_some_iff.mp hfield
    rfl

/-- A column is optional in both fields or in none, unless it is nullable and gets a value in some
other way. -/
theorem optional_iff (hfield : relationField? schema key = some field) :
    field.optional = (scalarField options junction key.1).optional ↔
      ¬ (key.1.isNullable = true ∧
        (key.1.default.isSome = true ∨ (managedKind? key.1).isSome = true)) := by
  rw [optional_relationField? hfield]
  change key.1.isNullable =
    (key.1.isNullable && key.1.default.isNone && (managedKind? key.1).isNone) ↔ _
  cases key.1.isNullable <;> cases key.1.default <;> cases managedKind? key.1 <;> simp

theorem optional_of_scalarField (hfield : relationField? schema key = some field)
    (hoptional : (scalarField options junction key.1).optional = true) : field.optional = true := by
  rw [optional_relationField? hfield]
  exact (Bool.and_eq_true_iff.mp (Bool.and_eq_true_iff.mp hoptional).1).1

/-! ### Values that are kept apart -/

theorem unique_not_mem_managedAttributes : Attribute.unique ∉ managedAttributes column := by
  unfold managedAttributes
  split <;> simp

theorem contains_unique_scalarField :
    (scalarField options junction column).attributes.contains .unique =
      (column.unique && !column.primaryKey) := by
  rw [attributes_scalarField, attributes_eq, Bool.eq_iff_iff, List.contains_iff_mem]
  simp [unique_not_mem_managedAttributes]

theorem isKey_scalarField :
    (scalarField options junction column).isKey =
      (column.primaryKey && !junction || column.unique && !column.primaryKey) := by
  rw [ScalarField.isKey, isId_scalarField, contains_unique_scalarField]

/-! ### Inverse fields -/

theorem mem_inverseTables : related ∈ inverseTables schema table key ↔
    related ∈ schema.tables ∧ related.name ≠ table.name ∧ isModelKey related key = true := by
  rw [inverseTables, List.mem_filter, decide_eq_true_iff]

/-- A foreign key has an inverse field in the models of the tables of the name that it refers to,
unless that is the name of its own table. -/
theorem inverseField_mem_model (options : GeneratorOptions) (htable : table ∈ schema.tables)
    (hkey : key ∈ table.foreignKeys) (hrelated : related ∈ inverseTables schema table key) :
    inverseField table key ∈ (model options schema related).value.inverses := by
  obtain ⟨-, hne, hmodel⟩ := mem_inverseTables.mp hrelated
  rw [inverses_model]
  refine List.mem_flatMap.mpr ⟨table, List.mem_filter.mpr ⟨htable, by simpa using hne.symm⟩, ?_⟩
  exact List.mem_map_of_mem (List.mem_filter.mpr ⟨hkey, hmodel⟩)

theorem reference_of_mem_foreignKeys (hkey : key ∈ table.foreignKeys) :
    key.1.reference = some key.2 := by
  obtain ⟨column, -, hpair⟩ := List.mem_filterMap.mp hkey
  obtain ⟨reference, hreference, rfl⟩ := Option.map_eq_some_iff.mp hpair
  exact hreference

theorem mem_columns_of_mem_foreignKeys (hkey : key ∈ table.foreignKeys) :
    key.1 ∈ table.columns := by
  obtain ⟨column, hcolumn, hpair⟩ := List.mem_filterMap.mp hkey
  obtain ⟨reference, -, rfl⟩ := Option.map_eq_some_iff.mp hpair
  exact hcolumn

theorem single_inverseField (hkey : key ∈ table.foreignKeys) :
    (inverseField table key).single = true ↔
      key.1.unique = true ∨ key.2.cardinality = some .oneToOne := by
  have hsingle : (inverseField table key).single = key.1.isOneToOneKey := rfl
  rw [hsingle, Column.isOneToOneKey, reference_of_mem_foreignKeys hkey, Option.any_some,
    Bool.or_eq_true, beq_iff_eq]

/-- The values of a key with a single inverse field are left together in two cases: the key is part
of the primary key of a junction, or that it is one-to-one is said of its relation alone. -/
theorem isKey_eq_false_iff (hkey : key ∈ table.foreignKeys)
    (hsingle : (inverseField table key).single = true) :
    (scalarField options junction key.1).isKey = false ↔
      key.1.primaryKey = true ∧ junction = true ∨
      key.1.primaryKey = false ∧ key.1.unique = false ∧ key.2.cardinality = some .oneToOne := by
  rw [isKey_scalarField]
  rcases (single_inverseField hkey).mp hsingle with hunique | hdeclared
  · rw [hunique]
    cases key.1.primaryKey <;> cases junction <;> simp
  · rw [hdeclared]
    cases key.1.primaryKey <;> cases key.1.unique <;> cases junction <;> simp

/-! ### All fields of a key -/

/-- How a relation field, the scalar field of its column and the inverse fields of a foreign key fit
together. -/
structure KeyFieldsFit (options : GeneratorOptions) (schema : Schema) (table : Table)
    (key : Column × Reference) (relation : RelationField) (scalar : ScalarField) : Prop where
  /-- The fields of the model are what it is written with. -/
  written : (model options schema table).value.IsWritten
  relation_mem : relation ∈ (model options schema table).value.relations
  /-- A question mark is written for an optional relation field. -/
  relation_text : ∃ arguments, relation.text =
    relation.name ++ " " ++ relation.model ++ (if relation.optional then "?" else "") ++
      " @relation(" ++
      arguments ++ ")"
  scalar_mem : scalar ∈ (model options schema table).value.scalars
  /-- So it is for an optional scalar field, behind which its attributes are written. -/
  scalar_text : ∃ comment, scalar.text = comment ++ " ".intercalate
    (scalar.name :: (scalar.type ++ (if scalar.optional then "?" else "")) ::
      scalar.attributes.map Attribute.text)
  /-- The scalar field is optional only where the relation field is. -/
  optional_of_scalar : scalar.optional = true → relation.optional = true
  /-- They agree unless the column is nullable and gets a value in some other way. -/
  optional_iff : relation.optional = scalar.optional ↔
    ¬ (key.1.isNullable = true ∧ (key.1.default.isSome = true ∨ (managedKind? key.1).isSome = true))
  /-- The inverse fields of the key, which are written with a question mark if they are single. -/
  inverse : ∀ related ∈ inverseTables schema table key,
    (model options schema related).value.IsWritten ∧
      inverseField table key ∈ (model options schema related).value.inverses ∧
      (inverseField table key).text =
        Naming.fieldName table.name ++ " " ++ Naming.className table.name ++
        (if (inverseField table key).single then "?" else "[]") ∧
      -- then the values of the column are kept apart, with two exceptions
      ((inverseField table key).single = true →
        (scalar.isKey = false ↔
          key.1.primaryKey = true ∧ isJunction table = true ∨
          key.1.primaryKey = false ∧ key.1.unique = false ∧ key.2.cardinality = some .oneToOne))

/-- **How the fields of a foreign key fit together.**  Take a foreign key with a relation field.
Where the field of its column is optional the relation field is, and they agree unless the column is
nullable and has a default or is kept up to date by the database.  Each table of the name that the
key refers to, unless it is that of its own table, has an inverse field for it.  Where this is
single, the values of the column are kept apart by `@id` or `@unique`, unless the column is part of
the primary key of a junction, or it is neither unique nor part of a primary key and only declared
one-to-one. -/
theorem key_fields_fit_iff (options : GeneratorOptions) (htable : table ∈ schema.tables)
    (hkey : key ∈ table.foreignKeys) (hfield : relationField? schema key = some field) :
    KeyFieldsFit options schema table key field
      (scalarField options (isJunction table) key.1) where
  written := isWritten _
  relation_mem := by
    rw [relations_model]
    exact List.mem_filterMap.mpr ⟨key, hkey, hfield⟩
  relation_text := ⟨_, rfl⟩
  scalar_mem := by
    rw [scalars_model]
    exact List.mem_append_right _ (List.mem_map_of_mem (mem_columns_of_mem_foreignKeys hkey))
  scalar_text := ⟨_, rfl⟩
  optional_of_scalar := optional_of_scalarField hfield
  optional_iff := optional_iff hfield
  inverse := fun related hrelated =>
    ⟨isWritten _, inverseField_mem_model options htable hkey hrelated, text_inverseField table key,
      isKey_eq_false_iff hkey⟩

/-- Posts, each pinned by one author at most, who may be missing. -/
def pinnedExample : Schema where
  tables :=
    [{ name := "authors", columns := [{ name := "id", type := "int", primaryKey := true }] },
     { name := "posts"
       columns :=
        [{ name := "pinned_by", type := "int", nullable := some true, unique := true
           reference := some { table := "authors", column := "id" } }] }]

/-- The fields for the author by whom a post is pinned agree, and their values are kept apart. -/
theorem key_fields_fit_iff_of_pinned :
    ∃ authors posts pinned, pinnedExample.tables = [authors, posts] ∧ posts ∈ pinnedExample.tables ∧
      pinned ∈ posts.foreignKeys ∧ ∃ field, relationField? pinnedExample pinned = some field ∧
        field.optional = true ∧ (scalarField {} (isJunction posts) pinned.1).optional = true ∧
        (inverseField posts pinned).single = true ∧
        (scalarField {} (isJunction posts) pinned.1).isKey = true := by
  have hposts : pinnedExample.tables[1] ∈ pinnedExample.tables := List.getElem_mem _
  have hpinned : pinnedExample.tables[1].foreignKeys[0] ∈ pinnedExample.tables[1].foreignKeys :=
    List.getElem_mem _
  have hfit := key_fields_fit_iff {} hposts hpinned rfl
  refine ⟨_, _, _, rfl, hposts, hpinned, _, rfl, rfl, ?_, rfl, ?_⟩
  · exact (hfit.optional_iff.mpr (by decide)).symm.trans rfl
  · have happart := (hfit.inverse pinnedExample.tables[0] (by decide)).2.2.2 rfl
    exact Bool.not_eq_false _ |>.mp (mt happart.mp (by decide))

/-- A profile belongs to a user, or to the first one if nothing else is said. -/
def profilesSource : String :=
  "Table users \x7b\n  id int [pk]\n\x7d\nTable profiles \x7b\n" ++
    "  user_id int [null, default: 1, ref: - users.id]\n\x7d"

/-- **The fields of a foreign key need not fit.**  The relation field of a profile is optional and
the field of its column is not; and users have a single profile, though nothing keeps the values of
the column apart. -/
theorem key_fields_differ_of_default :
    ∃ parsed, (parse .strict profilesSource.toList).outcome = .ok parsed ∧
      ∃ users profiles key, parsed.tables = [users, profiles] ∧ profiles.foreignKeys = [key] ∧
        ∃ field, relationField? parsed key = some field ∧ field.optional = true ∧
          (scalarField {} (isJunction profiles) key.1).optional = false ∧
          (model {} parsed users).value.inverses.map (·.text) = ["profiles Profiles?"] ∧
          (scalarField {} (isJunction profiles) key.1).isKey = false := by
  have hparse : (parse .strict profilesSource.toList).outcome =
      .ok
        { tables :=
            [{ name := "users", columns := [{ name := "id", type := "int", primaryKey := true }] },
             { name := "profiles"
               columns :=
                [{ name := "user_id", type := "int", nullable := some true
                   default := some (.number (.int 1))
                   reference := some ⟨"users", "id", some .oneToOne, none, none⟩ }] }]
          relations := [⟨⟨"profiles", "user_id"⟩, ⟨"users", "id"⟩, .oneToOne, none, none⟩] } := by
    with_unfolding_all rfl
  refine ⟨_, hparse, _, _, _, rfl, rfl, _, rfl, rfl, ?_, ?_, ?_⟩
  · decide
  · decide
  · decide

end Dbml.Prisma
