import Dbml.Proofs.Linking.Columns

/-!
# Steps behind a column that was given a reference

`Schema.withReference` gives a reference to the first column of a name.  This file asks when it
makes no difference whether a step of linking comes before or behind that.

* A foreign key of another source never sees it (`linkForeignKey_withReference`).
* A junction sees it if the column is in its table and now refers to an endpoint.  It still makes no
  difference if the column is in the primary key anyway and another column refers to that endpoint,
  so that nothing is to be promoted or added (`linkJunction_withReference`).
* The foreign key with this source gives the column the very reference (`linkForeignKey_source`).
-/

namespace Dbml

/-- The column with the reference, whatever it referred to. -/
def Column.withReference (column : Column) (reference : Reference) : Column :=
  { column with reference := some reference }

/-- The schema in which the first column of a name has the reference. -/
def Schema.withReference (schema : Schema) (endpoint : Endpoint) (reference : Reference) : Schema :=
  schema.updateTable endpoint.table (·.updateColumn endpoint.column (·.withReference reference))

variable {schema : Schema} {endpoint other : Endpoint} {reference : Reference} {relation : Relation}
  {named : NamedRelation} {table : Table} {column : Column} {name : String}

theorem Table.updateColumn_name (name : String) (f : Column → Column) (table : Table) :
    (table.updateColumn name f).name = table.name := rfl

theorem Column.withReference_name (reference : Reference) (column : Column) :
    (column.withReference reference).name = column.name := rfl

theorem Column.refersTo_withReference :
    (column.withReference reference).refersTo other = true ↔ reference.target = other := by
  simp [refersTo_iff, withReference]

/-! ### Looking it up -/

theorem Schema.column?_withReference (schema : Schema) (endpoint : Endpoint) (reference : Reference)
    (other : Endpoint) :
    (schema.withReference endpoint reference).column? other =
      if other = endpoint then (schema.column? other).map (·.withReference reference)
      else schema.column? other := by
  unfold column? withReference
  by_cases htable : other.table = endpoint.table
  · rw [htable, table?_updateTable_self (Table.updateColumn_name _ _)]
    by_cases hcolumn : other.column = endpoint.column
    · rw [if_pos (Endpoint.eq_iff.mpr ⟨htable, hcolumn⟩), hcolumn]
      cases schema.table? endpoint.table with
      | none => rfl
      | some table => exact Table.column?_updateColumn_self (Column.withReference_name reference)
    · have hother : other ≠ endpoint := by
        rintro rfl
        exact hcolumn rfl
      rw [if_neg hother]
      cases schema.table? endpoint.table with
      | none => rfl
      | some table =>
          exact Table.column?_updateColumn_of_ne (Column.withReference_name reference) hcolumn
  · have hother : other ≠ endpoint := by
      rintro rfl
      exact htable rfl
    rw [if_neg hother, table?_updateTable_of_ne (Table.updateColumn_name _ _) htable]

theorem Schema.columnType?_eq_map (schema : Schema) (endpoint : Endpoint) :
    schema.columnType? endpoint = (schema.column? endpoint).map (·.type) := by
  unfold columnType? column?
  cases schema.table? endpoint.table with
  | none => rfl
  | some table =>
      rw [Option.bind_some]
      cases hcolumn : table.column? endpoint.column with
      | none => simp [hcolumn]
      | some column => simp [hcolumn]

namespace Linking

/-- A reference is no part of a type. -/
@[simp] theorem keyType_withReference (schema : Schema) (endpoint : Endpoint)
    (reference : Reference) :
    keyType (schema.withReference endpoint reference) = keyType schema := by
  funext other
  unfold keyType
  rw [Schema.columnType?_eq_map, Schema.columnType?_eq_map, Schema.column?_withReference]
  split
  · rw [Option.map_map]
    rfl
  · rfl

/-! ### Two changes of one schema -/

/-- An update that commutes with giving the reference in its table does so in the schema. -/
theorem updateTable_withReference {f : Table → Table} (hf : ∀ table, (f table).name = table.name)
    (hcomm : name = endpoint.table → ∀ table, schema.table? name = some table →
      f (table.updateColumn endpoint.column (·.withReference reference)) =
        (f table).updateColumn endpoint.column (·.withReference reference)) :
    (schema.withReference endpoint reference).updateTable name f =
      (schema.updateTable name f).withReference endpoint reference := by
  unfold Schema.withReference Schema.updateTable
  by_cases hname : name = endpoint.table
  · subst hname
    have hfound : ∀ table, schema.tables.find? (·.name = endpoint.table) = some table →
        (f ∘ (·.updateColumn endpoint.column (·.withReference reference))) table =
          ((·.updateColumn endpoint.column (·.withReference reference)) ∘ f) table :=
      hcomm rfl
    have hbehind := updateFirst_updateFirst (l := schema.tables) (p := (·.name = endpoint.table))
      (f := (·.updateColumn endpoint.column (·.withReference reference))) (g := f) fun table h => h
    have hbefore := updateFirst_updateFirst (l := schema.tables) (p := (·.name = endpoint.table))
      (f := f) (g := (·.updateColumn endpoint.column (·.withReference reference)))
      fun table h => by rwa [hf]
    rw [hbehind, hbefore, updateFirst_congr hfound]
  · have hcommute := updateFirst_comm (l := schema.tables)
      (p := (·.name = name)) (q := (·.name = endpoint.table)) (f := f)
      (g := (·.updateColumn endpoint.column (·.withReference reference)))
      (fun table h => by simp_all) (fun table => by rw [hf]) fun table => rfl
    rw [hcommute]

theorem withTable_withReference (h : schema.column? endpoint = some column) (name : String) :
    (schema.withReference endpoint reference).withTable name =
      (schema.withTable name).withReference endpoint reference := by
  obtain ⟨table, htable, -⟩ := Schema.column?_eq_some.mp h
  have hname : (schema.withReference endpoint reference).hasTable name = schema.hasTable name :=
    Schema.hasTable_updateTable fun table => rfl
  unfold Schema.withTable
  rw [hname]
  split
  · rfl
  · unfold Schema.withReference Schema.addTable Schema.updateTable
    rw [updateFirst_append_of_some htable]

/-! ### Junctions -/

theorem promote_of_none (hnone : column.reference = none) : promote relation column = column := by
  have hrefers : ∀ endpoint, column.refersTo endpoint = false := by
    intro endpoint
    rw [Column.refersTo, hnone]
    rfl
  rw [promote, hrefers, hrefers]
  rfl

/-- A column that the reference would get into the primary key is in it anyway. -/
theorem promote_withReference (hnone : column.reference = none)
    (hprimary : relation.HasEnd reference.target → column.primaryKey = true) :
    promote relation (column.withReference reference) =
      (promote relation column).withReference reference := by
  rw [promote_of_none hnone]
  unfold promote
  split
  · rename_i hrefers
    have hend : relation.HasEnd reference.target := by
      rcases Bool.or_eq_true_iff.mp hrefers with hsource | htarget
      · exact .inl (Column.refersTo_withReference.mp hsource)
      · exact .inr (Column.refersTo_withReference.mp htarget)
    have hkey : (column.withReference reference).primaryKey = true := hprimary hend
    rw [← hkey]
  · rfl

/-- A reference to a column to which another one refers changes nothing about what the table refers
to. -/
theorem any_refersTo_updateColumn {columnName : String}
    (hcolumn : table.column? columnName = some column) (hnone : column.reference = none)
    (hrefers : reference.target = endpoint → table.columns.any (·.refersTo endpoint) = true) :
    (table.updateColumn columnName (·.withReference reference)).columns.any (·.refersTo endpoint) =
      table.columns.any (·.refersTo endpoint) := by
  have hbefore : column.refersTo endpoint = false := by
    rw [Column.refersTo, hnone]
    rfl
  rw [Table.updateColumn, any_updateFirst hcolumn hbefore]
  by_cases htarget : reference.target = endpoint
  · rw [hrefers htarget, Bool.or_true]
  · have hafter : (column.withReference reference).refersTo endpoint = false := by
      rw [← Bool.not_eq_true, Column.refersTo_withReference]
      exact htarget
    rw [hafter, Bool.false_or]

/-- What a junction lacks depends on what the table refers to alone. -/
theorem missingColumns_congr {first second : Table}
    (h : ∀ endpoint, relation.HasEnd endpoint →
      first.columns.any (·.refersTo endpoint) = second.columns.any (·.refersTo endpoint)) :
    missingColumns schema relation first = missingColumns schema relation second := by
  unfold missingColumns
  have hlacking : ([relation.source, relation.target].filter fun endpoint =>
        !first.columns.any (·.refersTo endpoint)) =
      [relation.source, relation.target].filter fun endpoint =>
        !second.columns.any (·.refersTo endpoint) := by
    refine List.filter_congr fun endpoint hmem => ?_
    have hend : relation.HasEnd endpoint := by simpa [Relation.HasEnd] using hmem
    rw [h endpoint hend]
  rw [hlacking]

/-- In a table a junction makes no difference between a column that was given a reference and one
that is given it then, if a column that refers to an end is in the primary key and not the only
one. -/
theorem joinTable_updateColumn {columnName : String}
    (hcolumn : table.column? columnName = some column) (hnone : column.reference = none)
    (hend : relation.HasEnd reference.target →
      column.primaryKey = true ∧ table.columns.any (·.refersTo reference.target) = true) :
    joinTable schema relation (table.updateColumn columnName (·.withReference reference)) =
      (joinTable schema relation table).updateColumn columnName (·.withReference reference) := by
  have hmissing :
      missingColumns schema relation (table.updateColumn columnName (·.withReference reference)) =
        missingColumns schema relation table := by
    refine missingColumns_congr fun endpoint hendpoint => any_refersTo_updateColumn hcolumn hnone ?_
    rintro rfl
    exact (hend hendpoint).2
  have hpromoted : (table.columns.map (promote relation)).find? (·.name = columnName) =
      some (promote relation column) := by
    rw [find?_map_promote, show table.columns.find? (·.name = columnName) = some column
      from hcolumn, Option.map_some]
  have hcolumns : (table.updateColumn columnName (·.withReference reference)).columns.map
        (promote relation) =
      updateFirst (·.name = columnName) (·.withReference reference)
        (table.columns.map (promote relation)) := by
    refine map_updateFirst_comm (fun column => by rw [promote_name]) fun found hfound => ?_
    cases hcolumn.symm.trans hfound
    exact promote_withReference hnone fun hends => (hend hends).1
  rw [joinTable, joinTable, hmissing, hcolumns, Table.updateColumn, Table.updateColumn,
    updateFirst_append_of_some hpromoted]

theorem junctionColumn_withReference (schema : Schema) (endpoint : Endpoint)
    (reference : Reference) :
    junctionColumn (schema.withReference endpoint reference) = junctionColumn schema := by
  funext relation other
  simp only [junctionColumn, keyType_withReference]

theorem linkJunction_withReference (hcolumn : schema.column? endpoint = some column)
    (hnone : column.reference = none)
    (hend : junctionName named = endpoint.table → named.relation.HasEnd reference.target →
      column.primaryKey = true ∧ schema.RefersFrom endpoint.table reference.target) :
    (linkJunction (schema.withReference endpoint reference) named).value =
      ((linkJunction schema named).value).withReference endpoint reference := by
  obtain ⟨table, htable, hfound⟩ := Schema.column?_eq_some.mp hcolumn
  have hjoin : joinTable (schema.withReference endpoint reference) named.relation =
      joinTable schema named.relation := by
    funext table
    simp only [joinTable, missingColumns, junctionColumn_withReference]
  rw [linkJunction_value, linkJunction_value, withTable_withReference hcolumn, hjoin]
  refine updateTable_withReference (joinTable_name _ _) ?_
  intro hname other hother
  have hthere : (schema.withTable (junctionName named)).table? (junctionName named) =
      some table := by
    rw [hname]
    exact Schema.table?_withTable htable
  cases hthere.symm.trans hother
  refine joinTable_updateColumn hfound hnone fun hends => ?_
  obtain ⟨hprimary, hrefers⟩ := hend hname hends
  refine ⟨hprimary, ?_⟩
  rw [Schema.RefersFrom, Schema.columnsOf_of_table? htable] at hrefers
  exact List.any_eq_true.mpr hrefers

/-! ### Foreign keys -/

theorem keyTable_updateColumn {columnName : String}
    (hcolumn : table.column? columnName = some column) (hne : relation.source.column ≠ columnName) :
    keyTable schema relation (table.updateColumn columnName (·.withReference reference)) =
      (keyTable schema relation table).updateColumn columnName (·.withReference reference) := by
  unfold keyTable
  rw [Table.column?_updateColumn_of_ne (Column.withReference_name reference) hne]
  split
  · have hcommute := updateFirst_comm (l := table.columns) (p := (·.name = relation.source.column))
      (q := (·.name = columnName)) (f := attach relation) (g := (·.withReference reference))
      (fun column h => by simp_all) (fun column => by rw [attach_name]) fun column => rfl
    unfold Table.updateColumn
    rw [hcommute]
  · unfold Table.updateColumn
    rw [updateFirst_append_of_some hcolumn]

theorem linkForeignKey_withReference (hcolumn : schema.column? endpoint = some column)
    (hne : relation.source ≠ endpoint) :
    (linkForeignKey (schema.withReference endpoint reference) relation).value =
      ((linkForeignKey schema relation).value).withReference endpoint reference := by
  obtain ⟨table, htable, hfound⟩ := Schema.column?_eq_some.mp hcolumn
  have hkey : keyTable (schema.withReference endpoint reference) relation =
      keyTable schema relation := by
    funext table
    simp only [keyTable, foreignKey, keyType_withReference]
  rw [linkForeignKey_value, linkForeignKey_value, hkey]
  refine updateTable_withReference (keyTable_name _ _) ?_
  intro hname other hother
  rw [hname] at hother
  cases htable.symm.trans hother
  exact keyTable_updateColumn hfound fun hsame => hne (Endpoint.eq_iff.mpr ⟨hname, hsame⟩)

/-- A column without a reference gets that of the relation from it. -/
theorem linkForeignKey_source (hcolumn : schema.column? relation.source = some column)
    (hnone : column.reference = none) :
    (linkForeignKey schema relation).value =
      schema.withReference relation.source relation.reference := by
  obtain ⟨table, htable, hfound⟩ := Schema.column?_eq_some.mp hcolumn
  rw [linkForeignKey_value]
  refine Schema.updateTable_congr fun other hother => ?_
  cases htable.symm.trans hother
  rw [keyTable, hfound]
  have hcongr : updateFirst (·.name = relation.source.column) (attach relation) table.columns =
      updateFirst (·.name = relation.source.column) (·.withReference relation.reference)
        table.columns :=
    updateFirst_congr fun other hother => by
      cases hfound.symm.trans hother
      rw [attach, hnone]
      rfl
  show table.updateColumn _ _ = _
  rw [Table.updateColumn, Table.updateColumn, hcongr]

end Linking

end Dbml
