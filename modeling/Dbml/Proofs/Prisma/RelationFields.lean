import Dbml.Proofs.Prisma.FieldTexts
import Dbml.Proofs.Schema.OtherTables

/-!
# The two fields of a foreign key

A foreign key that is not many-to-many gives a relation field in the model of its own table and an
inverse field in the model of the table that it refers to.  The first comes from a search for that
table, the second from one for the key.

* `relations_model`: the relation fields of a model are those of the keys to tables that exist, in
  the order of the columns (`relationField?`).
* `filter_relations_model`, `inverses_model`: both kinds of fields, sorted out by the other table,
  come from the same keys (`modelKeys`).
* `text_relationField`, `text_inverseField`: what is written for a key, which names its columns and
  says how many rows there may be.
* `foreignKeys_withoutDangling`: without its keys to tables that do not exist a table has the others
  still, so that all models have the same fields for relations.

An inverse field tells the other table by its class alone, and different tables may have one class.
So `relation_fields_agree` says when all inverse fields with the class of a table are those for its
keys.
-/

namespace Dbml

open Prisma

namespace Prisma

/-- A foreign key to the table that is not many-to-many. -/
def isModelKey (target : Table) : Column × Reference → Bool
  | (column, reference) => reference.table = target.name && !column.isManyToManyKey

/-- The foreign keys of a table to another one for which there are fields, in the order of the
columns. -/
def modelKeys (table target : Table) : List (Column × Reference) :=
  table.foreignKeys.filter (isModelKey target)

/-- The relation field of a foreign key to the table. -/
def relationField (target : Table) : Column × Reference → RelationField
  | (column, reference) =>
    { name := Naming.fieldName target.name
      model := Naming.className target.name
      optional := column.isNullable
      column := column.name
      reference }

/-- The relation field of a foreign key, if it has one. -/
def relationField? (schema : Schema) : Column × Reference → Option RelationField
  | (column, reference) =>
    if column.isManyToManyKey then none
    else (schema.table? reference.table).map (relationField · (column, reference))

/-- The tables of the class of `source`, but for `table` itself. -/
def classmates (schema : Schema) (table source : Table) : List Table :=
  (schema.tables.filter fun other => other.name ≠ table.name).filter fun other =>
    Naming.className other.name = Naming.className source.name

/-- The inverse field of a foreign key of the table. -/
def inverseField (source : Table) : Column × Reference → InverseField
  | (column, _) =>
    { name := Naming.fieldName source.name
      model := Naming.className source.name
      single := column.isOneToOneKey }

variable {options : GeneratorOptions} {schema : Schema} {table target source a b : Table}

/-! ### Relation fields -/

theorem relationFields_value (schema : Schema) (table : Table) (keys : List (Column × Reference)) :
    (relationFields schema table keys).value = keys.filterMap (relationField? schema) := by
  induction keys with
  | nil => rfl
  | cons key rest ih =>
      obtain ⟨column, reference⟩ := key
      rw [relationFields, List.filterMap_cons, relationField?]
      cases column.isManyToManyKey with
      | true => simpa using ih
      | false =>
          cases schema.table? reference.table with
          | none => simpa using ih
          | some related => exact congrArg (relationField related (column, reference) :: ·) ih

theorem relations_model (options : GeneratorOptions) (schema : Schema) (table : Table) :
    (model options schema table).value.relations =
      table.foreignKeys.filterMap (relationField? schema) :=
  relationFields_value schema table table.foreignKeys

theorem filter_relationField? (htarget : schema.table? target.name = some target)
    (key : Column × Reference) :
    (relationField? schema key).filter (·.reference.table = target.name) =
      if isModelKey target key then some (relationField target key) else none := by
  obtain ⟨column, reference⟩ := key
  rw [relationField?, isModelKey]
  cases column.isManyToManyKey with
  | true => simp
  | false =>
      by_cases hsame : reference.table = target.name
      · simp [hsame, htarget, relationField]
      · cases schema.table? reference.table <;> simp [relationField, hsame]

theorem filter_relations_model (htarget : schema.table? target.name = some target) :
    (model options schema table).value.relations.filter (·.reference.table = target.name) =
      (modelKeys table target).map (relationField target) := by
  rw [relations_model, List.filter_filterMap, modelKeys]
  induction table.foreignKeys with
  | nil => rfl
  | cons key rest ih =>
      rw [List.filterMap_cons, List.filter_cons, filter_relationField? htarget, ih]
      split <;> simp_all

/-- A relation field as it is written.  Behind the two columns come the actions on changes. -/
theorem text_relationField (target : Table) (key : Column × Reference) :
    ∃ actions, (relationField target key).text =
      Naming.fieldName target.name ++ " " ++ Naming.className target.name ++
        (if key.1.isNullable then "?" else "") ++ " @relation(fields: [" ++ key.1.name ++
        "], references: [" ++ key.2.column ++ "]" ++ actions ++ ")" :=
  (relationField target key).text_eq

theorem scalars_model (options : GeneratorOptions) (schema : Schema) (table : Table) :
    (model options schema table).value.scalars =
      (if isJunction table then [junctionKey] else []) ++
        table.columns.map (scalarField options (isJunction table)) := rfl

theorem scalarField_mem_model (options : GeneratorOptions) (schema : Schema)
    {key : Column × Reference} (hkey : key ∈ modelKeys table target) :
    scalarField options (isJunction table) key.1 ∈ (model options schema table).value.scalars := by
  obtain ⟨column, hcolumn, hpair⟩ := List.mem_filterMap.mp (List.mem_filter.mp hkey).1
  obtain ⟨reference, -, rfl⟩ := Option.map_eq_some_iff.mp hpair
  exact List.mem_append_right _ (List.mem_map_of_mem hcolumn)

/-! ### Inverse fields -/

theorem inverses_model (options : GeneratorOptions) (schema : Schema) (table : Table) :
    (model options schema table).value.inverses =
      (schema.tables.filter fun other => other.name ≠ table.name).flatMap fun other =>
        (modelKeys other table).map (inverseField other) := rfl

theorem text_inverseField (source : Table) (key : Column × Reference) :
    (inverseField source key).text =
      Naming.fieldName source.name ++ " " ++ Naming.className source.name ++
        (if key.1.isOneToOneKey then "?" else "[]") := rfl

theorem mem_classmates {other : Table} : other ∈ classmates schema table source ↔
    (other ∈ schema.tables ∧ other.name ≠ table.name) ∧
      Naming.className other.name = Naming.className source.name := by
  rw [classmates, List.mem_filter, List.mem_filter, decide_eq_true_iff, decide_eq_true_iff]

/-- The inverse fields with the class of a table come from all tables of this class. -/
theorem filter_inverses_model (options : GeneratorOptions) (schema : Schema)
    (table source : Table) :
    (model options schema table).value.inverses.filter (·.model = Naming.className source.name) =
      (classmates schema table source).flatMap fun other =>
        (modelKeys other table).map (inverseField other) := by
  rw [inverses_model]
  refine filter_flatMap_of_forall fun other _ field hfield => ?_
  obtain ⟨key, -, rfl⟩ := List.mem_map.mp hfield
  rfl

/-- The inverse fields with the class of a table include those for its own keys. -/
theorem sublist_inverses_model (hsource : source ∈ schema.tables) (hne : source.name ≠ table.name) :
    ((modelKeys source table).map (inverseField source)).Sublist
      ((model options schema table).value.inverses.filter (·.model =
        Naming.className source.name)) := by
  have hmem : source ∈ classmates schema table source := mem_classmates.mpr ⟨⟨hsource, hne⟩, rfl⟩
  rw [filter_inverses_model, List.flatMap_def]
  exact List.sublist_flatten_of_mem (List.mem_map_of_mem hmem)

/-- They are all that there are just if no other table of this class has a key to the table. -/
theorem filter_inverses_model_eq_iff (hnames : (schema.tables.map (·.name)).Nodup)
    (hsource : source ∈ schema.tables) (hne : source.name ≠ table.name) :
    (model options schema table).value.inverses.filter (·.model = Naming.className source.name) =
        (modelKeys source table).map (inverseField source) ↔
      ∀ other ∈ schema.tables, other ≠ source → other.name ≠ table.name →
        Naming.className other.name = Naming.className source.name →
          modelKeys other table = [] := by
  have hmem : source ∈ classmates schema table source := mem_classmates.mpr ⟨⟨hsource, hne⟩, rfl⟩
  have hnodup : (classmates schema table source).Nodup := (hnames.of_map.filter _).filter _
  rw [filter_inverses_model, flatMap_eq_iff_of_nodup hnodup hmem]
  constructor
  · intro h other hother hdifferent hname hclass
    have hclassmate : other ∈ classmates schema table source :=
      mem_classmates.mpr ⟨⟨hother, hname⟩, hclass⟩
    exact List.map_eq_nil_iff.mp (h other hclassmate hdifferent)
  · intro h other hother hdifferent
    obtain ⟨⟨hmem, hname⟩, hclass⟩ := mem_classmates.mp hother
    rw [h other hmem hdifferent hname hclass, List.map_nil]

end Prisma

/-! ### Keys to tables that do not exist -/

/-- The column without its reference, if that is to a table that does not exist. -/
def Column.withoutDangling (schema : Schema) (column : Column) : Column :=
  { column with reference := column.reference.filter fun reference =>
    schema.hasTable reference.table }

/-- The table without references to tables that do not exist. -/
def Table.withoutDangling (schema : Schema) (table : Table) : Table :=
  { table with columns := table.columns.map (Column.withoutDangling schema) }

/-- The schema without references to tables that do not exist. -/
def Schema.withoutDangling (schema : Schema) : Schema :=
  { schema with tables := schema.tables.map (Table.withoutDangling schema) }

namespace Prisma

theorem foreignKeys_withoutDangling (schema : Schema) (table : Table) :
    (table.withoutDangling schema).foreignKeys =
      table.foreignKeys.filter fun key => schema.hasTable key.2.table := by
  rw [Table.foreignKeys, Table.foreignKeys, List.filter_filterMap, Table.withoutDangling,
    List.filterMap_map]
  refine List.filterMap_congr fun column _ => ?_
  rw [Function.comp_apply]
  cases hreference : column.reference with
  | none => simp [Column.withoutDangling, hreference]
  | some reference =>
      cases hknown : schema.hasTable reference.table with
      | false => simp [Column.withoutDangling, hreference, Option.filter_some, hknown]
      | true =>
          have hsame : column.withoutDangling schema = column := by
            rw [Column.withoutDangling, hreference, Option.filter_some, hknown, if_pos rfl,
              ← hreference]
          rw [hsame, hreference]
          simp [Option.filter_some, hknown]

theorem table?_withoutDangling (schema : Schema) (name : String) :
    schema.withoutDangling.table? name =
      (schema.table? name).map (Table.withoutDangling schema) := by
  rw [Schema.table?, Schema.withoutDangling, List.find?_map]
  rfl

theorem relations_withoutDangling (options : GeneratorOptions) (schema : Schema) (table : Table) :
    (model options schema.withoutDangling (table.withoutDangling schema)).value.relations =
      (model options schema table).value.relations := by
  rw [relations_model, relations_model, foreignKeys_withoutDangling, List.filterMap_filter]
  refine List.filterMap_congr fun key _ => ?_
  obtain ⟨column, reference⟩ := key
  rw [relationField?, relationField?, table?_withoutDangling, Schema.hasTable_eq_isSome]
  cases schema.table? reference.table with
  | none => simp
  | some related => simp [Table.withoutDangling, relationField]

theorem inverses_withoutDangling (options : GeneratorOptions) (htable : table ∈ schema.tables) :
    (model options schema.withoutDangling (table.withoutDangling schema)).value.inverses =
      (model options schema table).value.inverses := by
  have hknown : schema.hasTable table.name = true :=
    Schema.hasTable_iff_mem.mpr (List.mem_map_of_mem htable)
  have hkeys : ∀ other : Table,
    modelKeys (other.withoutDangling schema) (table.withoutDangling schema) =
      modelKeys other table := by
    intro other
    rw [modelKeys, modelKeys, foreignKeys_withoutDangling, List.filter_filter]
    refine List.filter_congr fun key _ => ?_
    by_cases hsame : key.2.table = table.name
    · simp [isModelKey, Table.withoutDangling, hsame, hknown]
    · simp [isModelKey, Table.withoutDangling, hsame]
  rw [inverses_model, inverses_model, Schema.withoutDangling, List.filter_map, List.flatMap_map]
  refine List.flatMap_congr fun other _ => ?_
  rw [hkeys]
  rfl

/-! ### Both fields together -/

/-- What the models of two tables say about the keys of the first one to the second. -/
structure FieldsAgree (options : GeneratorOptions) (schema : Schema) (a b : Table) : Prop where
  /-- The fields of both models are what these are written with. -/
  written : (model options schema a).value.IsWritten ∧ (model options schema b).value.IsWritten
  /-- Each key has a relation field in the model of its own table. -/
  relations : (model options schema a).value.relations.filter (·.reference.table = b.name) =
    (modelKeys a b).map (relationField b)
  /-- This field is written with the two columns. -/
  relation_text : ∀ key ∈ modelKeys a b, ∃ actions, (relationField b key).text =
    Naming.fieldName b.name ++ " " ++ Naming.className b.name ++
      (if key.1.isNullable then "?" else "") ++ " @relation(fields: [" ++ key.1.name ++
      "], references: [" ++ key.2.column ++ "]" ++ actions ++ ")"
  /-- The column has a field as well. -/
  scalars : ∀ key ∈ modelKeys a b,
    scalarField options (isJunction a) key.1 ∈ (model options schema a).value.scalars
  /-- Each key has an inverse field in the model of the other table. -/
  inverses : ((modelKeys a b).map (inverseField a)).Sublist
    ((model options schema b).value.inverses.filter (·.model = Naming.className a.name))
  /-- This field is written as a single one or as a list. -/
  inverse_text : ∀ key ∈ modelKeys a b, (inverseField a key).text =
    Naming.fieldName a.name ++ " " ++ Naming.className a.name ++
      (if key.1.isOneToOneKey then "?" else "[]")
  /-- There are no others with the class of the first table just if no other table of this class has
  a key to the second one. -/
  inverses_eq_iff :
    (model options schema b).value.inverses.filter (·.model = Naming.className a.name) =
        (modelKeys a b).map (inverseField a) ↔
      ∀ other ∈ schema.tables, other ≠ a → other.name ≠ b.name →
        Naming.className other.name = Naming.className a.name → modelKeys other b = []

/-- **The two fields of a foreign key agree.**  For each two tables the keys of the first to the
second that are not many-to-many have, in their order, fields in either model: a relation field
beside that of the column, and an inverse field, which is single just if the key is one-to-one.  A
key to a table that does not exist has no field for a relation in any model. -/
theorem relation_fields_agree (options : GeneratorOptions) (schema : Schema)
    (hnames : (schema.tables.map (·.name)).Nodup) :
    (∀ a ∈ schema.tables, ∀ b ∈ schema.tables, a ≠ b → FieldsAgree options schema a b) ∧
      ∀ table ∈ schema.tables,
        (model options schema.withoutDangling (table.withoutDangling schema)).value.relations =
            (model options schema table).value.relations ∧
          (model options schema.withoutDangling (table.withoutDangling schema)).value.inverses =
            (model options schema table).value.inverses := by
  refine ⟨fun a ha b hb hne => ?_, fun table htable => ?_⟩
  · have hname : a.name ≠ b.name := Schema.name_ne_of_ne hnames ha hb hne
    exact
      { written := ⟨isWritten _, isWritten _⟩
        relations := filter_relations_model (Schema.table?_of_mem hnames hb)
        relation_text := fun key _ => text_relationField b key
        scalars := fun _ hkey => scalarField_mem_model options schema hkey
        inverses := sublist_inverses_model ha hname
        inverse_text := fun key _ => text_inverseField a key
        inverses_eq_iff := filter_inverses_model_eq_iff hnames ha hname }
  · exact ⟨relations_withoutDangling options schema table, inverses_withoutDangling options htable⟩

/-- Two tables of one class that refer to a third one, the first also to a table that does not
exist. -/
def sharedClass : Schema where
  tables :=
    [{ name := "tag", columns := [{ name := "id", type := "int" }] },
     { name := "post_tag"
       columns :=
        [{ name := "tag", type := "int", reference := some { table := "tag", column := "id" } },
         { name := "post", type := "int"
           reference := some { table := "post", column := "id" } }] },
     { name := "post__tag"
       columns :=
        [{ name := "tag", type := "int", unique := true
           reference := some { table := "tag", column := "id" } }] }]

/-- **A model may have more inverse fields of a class than a table of that class has keys**, namely
those for another table. -/
theorem two_inverse_fields_of_shared_class :
    (sharedClass.tables.map (·.name)).Nodup ∧ ∃ tag first second,
      sharedClass.tables = [tag, first, second] ∧
      (modelKeys first tag).length = 1 ∧
      ((model {} sharedClass tag).value.inverses.filter
        (·.model = Naming.className first.name)).length = 2 := by
  refine ⟨by decide, _, _, _, rfl, by decide, ?_⟩
  decide

/-- The fields of either table agree with the keys all the same, and the second key is a single
one. -/
theorem relation_fields_agree_of_shared_class :
    (sharedClass.tables.map (·.name)).Nodup ∧ ∃ tag first second,
      sharedClass.tables = [tag, first, second] ∧
      FieldsAgree {} sharedClass first tag ∧ FieldsAgree {} sharedClass second tag ∧
      (modelKeys second tag).map (fun key => (inverseField second key).single) = [true] ∧
      (model {} sharedClass.withoutDangling (first.withoutDangling sharedClass)).value.relations =
        (model {} sharedClass first).value.relations := by
  have hnames : (sharedClass.tables.map (·.name)).Nodup := by decide
  have hagree := relation_fields_agree {} sharedClass hnames
  refine ⟨hnames, _, _, _, rfl, ?_, ?_, by decide, ?_⟩
  · exact hagree.1 sharedClass.tables[1] (List.getElem_mem _) sharedClass.tables[0]
      (List.getElem_mem _)
      (by decide)
  · exact hagree.1 sharedClass.tables[2] (List.getElem_mem _) sharedClass.tables[0]
      (List.getElem_mem _)
      (by decide)
  · exact (hagree.2 sharedClass.tables[1] (List.getElem_mem _)).1

end Prisma

end Dbml
