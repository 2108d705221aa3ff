import Dbml.Proofs.Linking.Passes
import Dbml.Proofs.Scan.Outcome

/-!
# Every relation has its foreign key

A relation that is not many-to-many makes a foreign key of its source, if the table exists: it
attaches its reference to the first column of that name, unless the column has one, and adds the
column where it is missing.  Seen through `Schema.reference?` one step is a single equation
(`reference?_linkForeignKey`), and so is the whole pass (`reference?_linkForeignKeys`): a source
keeps the reference that it has, and otherwise gets that of the first relation from it.
-/

namespace Dbml.Linking

variable {schema : Schema} {relation : Relation} {endpoint : Endpoint} {name : String}

/-! ### One relation -/

@[simp] theorem attach_name (relation : Relation) (column : Column) :
    (attach relation column).name = column.name := by
  unfold attach
  split <;> rfl

/-- A column keeps the reference that it has and gets that of the relation otherwise. -/
@[simp] theorem attach_reference (relation : Relation) (column : Column) :
    (attach relation column).reference =
      some (column.reference.getD relation.reference) := by
  unfold attach
  split <;> simp_all

theorem attach_of_isSome {column : Column} (h : column.reference.isSome = true) :
    attach relation column = column := by
  obtain ⟨r, hr⟩ := Option.isSome_iff_exists.mp h
  rw [attach, hr]

/-- The column that a relation adds at its source. -/
def foreignKey (schema : Schema) (relation : Relation) : Column where
  name := relation.source.column
  type := keyType schema relation.target
  reference := some relation.reference

/-- What a relation does to the table of its source. -/
def keyTable (schema : Schema) (relation : Relation) (table : Table) : Table :=
  match table.column? relation.source.column with
  | some _ => table.updateColumn relation.source.column (attach relation)
  | none => { table with columns := table.columns ++ [foreignKey schema relation] }

@[simp] theorem keyTable_name (schema : Schema) (relation : Relation) (table : Table) :
    (keyTable schema relation table).name = table.name := by
  unfold keyTable
  split <;> rfl

theorem linkForeignKey_value (schema : Schema) (relation : Relation) :
    (linkForeignKey schema relation).value =
      schema.updateTable relation.source.table (keyTable schema relation) := by
  unfold linkForeignKey
  cases htable : schema.table? relation.source.table with
  | none =>
      simp only [htable, Schema.updateTable_eq_self htable]
      rfl
  | some table =>
      cases hcolumn : table.column? relation.source.column with
      | none =>
          simp only [htable, hcolumn]
          refine Schema.updateTable_congr fun other hother => ?_
          cases htable.symm.trans hother
          simp only [keyTable, hcolumn]
          rfl
      | some column =>
          simp only [htable, hcolumn]
          refine Schema.updateTable_congr fun other hother => ?_
          cases htable.symm.trans hother
          simp only [keyTable, hcolumn]

theorem table?_linkForeignKey (schema : Schema) (relation : Relation) (name : String) :
    (linkForeignKey schema relation).value.table? name =
      if name = relation.source.table then (schema.table? name).map (keyTable schema relation)
      else schema.table? name := by
  rw [linkForeignKey_value]
  split
  · rename_i hname
    rw [hname, Schema.table?_updateTable_self (keyTable_name schema relation)]
  · rename_i hname
    rw [Schema.table?_updateTable_of_ne (keyTable_name schema relation) hname]

@[simp] theorem hasTable_linkForeignKey (schema : Schema) (relation : Relation) (name : String) :
    (linkForeignKey schema relation).value.hasTable name = schema.hasTable name := by
  rw [linkForeignKey_value, Schema.hasTable_updateTable (keyTable_name schema relation)]

/-- In the table of the source, its column has the reference that it had or that of the relation. -/
theorem column?_keyTable_self (schema : Schema) (relation : Relation) (table : Table) :
    ((keyTable schema relation table).column? relation.source.column).bind (·.reference) =
      some (((table.column? relation.source.column).bind (·.reference)).getD
        relation.reference) := by
  unfold keyTable
  split
  · rename_i column hcolumn
    rw [Table.column?_updateColumn_self (attach_name relation), hcolumn]
    simp
  · rename_i hcolumn
    simp [Table.column?_append, hcolumn, foreignKey]

theorem column?_keyTable_of_ne {column : String} (hne : column ≠ relation.source.column)
    (table : Table) : (keyTable schema relation table).column? column = table.column? column := by
  unfold keyTable
  split
  · exact Table.column?_updateColumn_of_ne (attach_name relation) hne
  · simp [Table.column?_append, foreignKey, Ne.symm hne]

/-- A relation gives its source a reference, if the table exists and there is none yet, and changes
no other. -/
theorem reference?_linkForeignKey (schema : Schema) (relation : Relation) (endpoint : Endpoint) :
    (linkForeignKey schema relation).value.reference? endpoint =
      if endpoint = relation.source ∧ schema.hasTable endpoint.table then
        some ((schema.reference? endpoint).getD relation.reference)
      else schema.reference? endpoint := by
  rw [linkForeignKey_value]
  simp only [Schema.reference?, Schema.column?]
  by_cases htable : endpoint.table = relation.source.table
  · rw [htable, Schema.table?_updateTable_self (keyTable_name schema relation),
      Schema.hasTable_eq_isSome]
    cases hfound : schema.table? relation.source.table with
    | none => simp
    | some table =>
        by_cases hcolumn : endpoint.column = relation.source.column
        · have : endpoint = relation.source := by
            cases endpoint
            simp_all
          subst this
          simpa using column?_keyTable_self schema relation table
        · have : endpoint ≠ relation.source := by
            rintro rfl
            exact hcolumn rfl
          simp [this, column?_keyTable_of_ne hcolumn]
  · have : endpoint ≠ relation.source := by
      rintro rfl
      exact htable rfl
    simp [this, Schema.table?_updateTable_of_ne (keyTable_name schema relation) htable]

/-! ### All relations -/

/-- A source keeps the reference that it has, and otherwise gets that of the first relation from
it. -/
theorem reference?_linkForeignKeys (relations : List Relation)
    (htable : schema.hasTable endpoint.table) :
    (linkEach linkForeignKey schema relations).value.reference? endpoint =
      (schema.reference? endpoint).or
        ((relations.find? (·.source = endpoint)).map Relation.reference) := by
  induction relations generalizing schema with
  | nil => simp
  | cons relation rest ih =>
      rw [linkEach_cons, ih (by rwa [hasTable_linkForeignKey]), reference?_linkForeignKey]
      by_cases hsource : relation.source = endpoint
      · subst hsource
        cases schema.reference? relation.source <;> simp [htable]
      · simp [hsource, Ne.symm hsource]

theorem hasTable_linkForeignKeys (relations : List Relation) (name : String) :
    (linkEach linkForeignKey schema relations).value.hasTable name = schema.hasTable name :=
  linkEach_preserves (P := fun other => other.hasTable name = schema.hasTable name) rfl
    fun _ _ _ h => by rw [hasTable_linkForeignKey, h]

/-! ### Parsed schemas -/

/-- **Foreign keys are complete.**  In a parsed schema the source of every relation that is not
many-to-many is a foreign key, if its table exists.  Its reference is the one that the column had
before the pass over the foreign keys, and otherwise that of the first relation from it. -/
theorem foreign_keys_complete {mode : Mode} {source : List Char} {schema : Schema}
    {relation : Relation} (h : (parse mode source).outcome = .ok schema)
    (hrelation : relation ∈ schema.relations) (hmany : relation.isManyToMany = false)
    (htable : schema.hasTable relation.source.table = true) :
    ∃ scan table column reference,
      (Source.scan mode source).outcome = .ok scan ∧
      schema.table? relation.source.table = some table ∧
      table.column? relation.source.column = some column ∧
      column.reference = some reference ∧
      ((joinedSchema scan.schema scan.relations).reference? relation.source = some reference ∨
        (joinedSchema scan.schema scan.relations).reference? relation.source = none ∧
          ∃ first,
            (keyRelations scan.schema scan.relations).find? (·.source = relation.source) =
              some first ∧
            reference = first.reference) := by
  obtain ⟨scan, hscan, rfl⟩ := parse_eq_ok h
  have hmem := mem_keyRelations hrelation hmany
  -- neither the last pass nor the one before it adds a table
  have hjoined : (joinedSchema scan.schema scan.relations).hasTable relation.source.table =
      true := by
    rw [← hasTable_linkForeignKeys (keyRelations scan.schema scan.relations)]
    exact htable
  have hpass : (link scan.schema scan.relations).value.reference? relation.source =
      ((joinedSchema scan.schema scan.relations).reference? relation.source).or
        (((keyRelations scan.schema scan.relations).find? (·.source = relation.source)).map
          Relation.reference) :=
    reference?_linkForeignKeys _ hjoined
  obtain ⟨first, hfirst⟩ : ∃ first,
      (keyRelations scan.schema scan.relations).find? (·.source = relation.source) = some first :=
    Option.isSome_iff_exists.mp (List.find?_isSome.mpr ⟨relation, hmem, by simp⟩)
  cases hbefore : (joinedSchema scan.schema scan.relations).reference? relation.source with
  | some reference =>
      rw [hbefore, Option.some_or] at hpass
      obtain ⟨table, column, hfound, hcolumn, hreference⟩ := Schema.reference?_eq_some.mp hpass
      exact ⟨scan, table, column, reference, hscan, hfound, hcolumn, hreference, .inl hbefore⟩
  | none =>
      rw [hbefore, hfirst, Option.none_or, Option.map_some] at hpass
      obtain ⟨table, column, hfound, hcolumn, hreference⟩ := Schema.reference?_eq_some.mp hpass
      exact ⟨scan, table, column, first.reference, hscan, hfound, hcolumn, hreference,
        .inr ⟨hbefore, first, hfirst, rfl⟩⟩

/-- Two relations compete for a column that is missing: the source of the second one has the
reference of the first. -/
theorem foreign_keys_complete_of_two_relations :
    ∃ schema, ∃ relation ∈ schema.relations,
      (parse .strict "Table t \x7b\n\x7d\nRef: t.x > a.id\nRef: t.x - b.id".toList).outcome =
        .ok schema ∧
      relation.target = ⟨"b", "id"⟩ ∧ relation.isManyToMany = false ∧
      schema.hasTable relation.source.table = true ∧
      ∃ table column reference,
        schema.table? relation.source.table = some table ∧
        table.column? relation.source.column = some column ∧
        column.reference = some reference ∧ reference.table = "a" := by
  have hparse : (parse .strict
    "Table t \x7b\n\x7d\nRef: t.x > a.id\nRef: t.x - b.id".toList).outcome =
      .ok
        { tables :=
            [{ name := "t"
               columns :=
                [{ name := "x", type := "int"
                   reference := some ⟨"a", "id", some .manyToOne, none, none⟩ }] }]
          relations :=
            [⟨⟨"t", "x"⟩, ⟨"a", "id"⟩, .manyToOne, none, none⟩,
             ⟨⟨"t", "x"⟩, ⟨"b", "id"⟩, .oneToOne, none, none⟩] } := by
    with_unfolding_all rfl
  have hmem : (⟨⟨"t", "x"⟩, ⟨"b", "id"⟩, .oneToOne, none, none⟩ : Relation) ∈
      [⟨⟨"t", "x"⟩, ⟨"a", "id"⟩, .manyToOne, none, none⟩,
        ⟨⟨"t", "x"⟩, ⟨"b", "id"⟩, .oneToOne, none, none⟩] := by
    simp
  obtain ⟨-, table, column, reference, -, htable, hcolumn, hreference, -⟩ :=
    foreign_keys_complete hparse hmem rfl rfl
  refine ⟨_, _, hmem, hparse, rfl, rfl, rfl, table, column, reference, htable, hcolumn, hreference,
    ?_⟩
  cases htable
  cases hcolumn
  cases hreference
  rfl

end Dbml.Linking
