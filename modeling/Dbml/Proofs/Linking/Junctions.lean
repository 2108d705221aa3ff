import Dbml.Proofs.Linking.ForeignKeys

/-!
# Every many-to-many relation has its junction table

A many-to-many relation wants a table of its junction name whose primary key has a foreign key to
each of its endpoints.  If there is no such table, one without columns is put at the end
(`Schema.withTable`); then the first table of the name is changed (`joinTable`): columns that refer
to an endpoint become part of the primary key, and a column is added for an endpoint to which none
refers.  So one step is one equation (`linkJunction_value`).

* `hasKeyTo_joinTable`: after its step a relation has its junction table.
* `Schema.Joins.linkJunction`, `Schema.Joins.linkForeignKey`: no later step of either pass takes a
  key away, since columns are neither removed nor lose their place in the primary key, and only a
  column without a reference gets one.
-/

namespace Dbml

/-! ### A table that has to exist -/

namespace Schema

variable {schema : Schema} {name other : String}

/-- The schema with a table of the name, a new one having no columns. -/
def withTable (schema : Schema) (name : String) : Schema :=
  if schema.hasTable name then schema else schema.addTable { name }

theorem withTable_of_table? {table : Table} (h : schema.table? name = some table) :
    schema.withTable name = schema := by
  rw [withTable, hasTable_eq_isSome, h, Option.isSome_some, if_pos rfl]

theorem withTable_of_none (h : schema.table? name = none) :
    schema.withTable name = schema.addTable { name } := by
  rw [withTable, hasTable_eq_isSome, h, Option.isSome_none, if_neg Bool.false_ne_true]

/-- A table that was found is found still. -/
theorem table?_withTable {table : Table} (h : schema.table? other = some table) :
    (schema.withTable name).table? other = some table := by
  cases hname : schema.table? name with
  | some found => rw [withTable_of_table? hname, h]
  | none =>
      rw [withTable_of_none hname, table?, addTable, List.find?_append]
      exact Option.or_eq_some_iff.mpr (.inl h)

theorem table?_withTable_self (h : schema.table? name = none) :
    (schema.withTable name).table? name = some { name } := by
  rw [withTable_of_none h, table?, addTable, List.find?_append,
    show schema.tables.find? _ = none from h]
  simp

theorem table?_withTable_of_ne (hne : other ≠ name) :
    (schema.withTable name).table? other = schema.table? other := by
  cases hname : schema.table? name with
  | some found => rw [withTable_of_table? hname]
  | none =>
      rw [withTable_of_none hname, table?, addTable, List.find?_append]
      simp [Ne.symm hne, table?]

theorem exists_table?_withTable_self (schema : Schema) (name : String) :
    ∃ table, (schema.withTable name).table? name = some table := by
  cases h : schema.table? name with
  | some table => exact ⟨table, table?_withTable h⟩
  | none => exact ⟨_, table?_withTable_self h⟩

end Schema

namespace Linking

variable {schema : Schema} {named : NamedRelation} {relation : Relation} {endpoint : Endpoint}
  {table : Table} {column : Column} {name : String}

/-! ### One relation -/

@[simp] theorem promote_reference (relation : Relation) (column : Column) :
    (promote relation column).reference = column.reference := by
  unfold promote
  split <;> rfl

@[simp] theorem promote_refersTo (relation : Relation) (column : Column) (endpoint : Endpoint) :
    (promote relation column).refersTo endpoint = column.refersTo endpoint := by
  rw [Column.refersTo, promote_reference, Column.refersTo]

/-- What a relation does to its junction table. -/
def joinTable (schema : Schema) (relation : Relation) (table : Table) : Table :=
  { table with
    columns := table.columns.map (promote relation) ++ missingColumns schema relation table }

@[simp] theorem joinTable_name (schema : Schema) (relation : Relation) (table : Table) :
    (joinTable schema relation table).name = table.name := rfl

/-- A junction table is an update of a table that exists or is made to. -/
theorem linkJunction_value (schema : Schema) (named : NamedRelation) :
    (linkJunction schema named).value =
      (schema.withTable (junctionName named)).updateTable (junctionName named)
        (joinTable schema named.relation) := by
  unfold linkJunction
  cases htable : schema.table? (junctionName named) with
  | some table =>
      simp only [htable, Schema.withTable_of_table? htable]
      refine Schema.updateTable_congr fun other hother => ?_
      cases htable.symm.trans hother
      rfl
  | none =>
      have hnew := Schema.table?_withTable_self htable
      rw [Schema.withTable_of_none htable] at hnew ⊢
      -- only the new table bears the name, so that the update changes the last one
      have hupdate : updateFirst (·.name = junctionName named) (joinTable schema named.relation)
          (schema.tables ++ [{ name := junctionName named }]) =
            schema.tables ++ [joinTable schema named.relation { name := junctionName named }] := by
        rw [updateFirst_append_of_none htable]
        simp [updateFirst]
      simp only [htable, Schema.updateTable, Schema.addTable, hupdate]
      rfl

/-- The junction table is found with the columns that the relation wants, and a look-up of any other
table finds what it found before. -/
theorem table?_linkJunction (schema : Schema) (named : NamedRelation) (name : String) :
    (linkJunction schema named).value.table? name =
      if name = junctionName named then
        some (joinTable schema named.relation ((schema.table? name).getD { name }))
      else schema.table? name := by
  rw [linkJunction_value]
  split
  · rename_i hname
    subst hname
    rw [Schema.table?_updateTable_self (joinTable_name schema named.relation)]
    cases htable : schema.table? (junctionName named) with
    | some table => rw [Schema.table?_withTable htable, Option.map_some, Option.getD_some]
    | none => rw [Schema.table?_withTable_self htable, Option.map_some, Option.getD_none]
  · rename_i hname
    rw [Schema.table?_updateTable_of_ne (joinTable_name schema named.relation) hname,
      Schema.table?_withTable_of_ne hname]

end Linking

open Linking

variable {schema : Schema} {named : NamedRelation} {relation : Relation} {endpoint : Endpoint}
  {table : Table} {column : Column} {name other : String}

/-! ### Keys of a junction table -/

/-- A column of the primary key refers to the endpoint. -/
def Table.HasKeyTo (table : Table) (endpoint : Endpoint) : Prop :=
  ∃ column ∈ table.columns, column.primaryKey = true ∧ column.refersTo endpoint = true

theorem mem_missingColumns (hendpoint : endpoint = relation.source ∨ endpoint = relation.target)
    (h : table.columns.any (·.refersTo endpoint) = false) :
    junctionColumn schema relation endpoint ∈ missingColumns schema relation table := by
  refine List.mem_map.mpr ⟨endpoint, List.mem_filter.mpr ⟨?_, by simp [h]⟩, rfl⟩
  simpa using hendpoint

/-- A relation gives its junction table a key to each of its endpoints. -/
theorem hasKeyTo_joinTable (schema : Schema) (table : Table)
    (hendpoint : endpoint = relation.source ∨ endpoint = relation.target) :
    (joinTable schema relation table).HasKeyTo endpoint := by
  cases hany : table.columns.any (·.refersTo endpoint) with
  | true =>
      obtain ⟨column, hcolumn, hrefers⟩ := List.any_eq_true.mp hany
      have hpromoted : (promote relation column).primaryKey = true := by
        rcases hendpoint with rfl | rfl <;> simp [promote, hrefers]
      exact ⟨promote relation column, List.mem_append_left _ (List.mem_map_of_mem hcolumn),
        hpromoted, by rwa [promote_refersTo]⟩
  | false =>
      exact ⟨junctionColumn schema relation endpoint,
        List.mem_append_right _ (mem_missingColumns hendpoint hany), rfl,
        by simp [junctionColumn, Column.refersTo]⟩

theorem promote_primaryKey (h : column.primaryKey = true) :
    (promote relation column).primaryKey = true := by
  unfold promote
  split
  · rfl
  · exact h

theorem Table.HasKeyTo.joinTable (h : table.HasKeyTo endpoint) :
    (joinTable schema relation table).HasKeyTo endpoint := by
  obtain ⟨column, hcolumn, hprimary, hrefers⟩ := h
  exact ⟨promote relation column, List.mem_append_left _ (List.mem_map_of_mem hcolumn),
    promote_primaryKey hprimary, by rwa [promote_refersTo]⟩

/-- A foreign key is attached to a column without a reference, which is none of the keys. -/
theorem Table.HasKeyTo.keyTable (h : table.HasKeyTo endpoint) :
    (keyTable schema relation table).HasKeyTo endpoint := by
  obtain ⟨column, hcolumn, hprimary, hrefers⟩ := h
  have hattach : attach relation column = column := by
    unfold attach
    cases hreference : column.reference with
    | some r => rfl
    | none => simp [Column.refersTo, hreference] at hrefers
  refine ⟨column, ?_, hprimary, hrefers⟩
  unfold Linking.keyTable
  split
  · exact mem_updateFirst_of_fixed hcolumn hattach
  · exact List.mem_append_left _ hcolumn

/-! ### Every step keeps them -/

/-- The first table of the name has a key to the endpoint. -/
def Schema.Joins (schema : Schema) (name : String) (endpoint : Endpoint) : Prop :=
  ∃ table, schema.table? name = some table ∧ table.HasKeyTo endpoint

namespace Schema.Joins

theorem withTable (h : schema.Joins name endpoint) :
    (schema.withTable other).Joins name endpoint := by
  obtain ⟨table, htable, hkey⟩ := h
  exact ⟨table, table?_withTable htable, hkey⟩

theorem updateTable {f : Table → Table} (h : schema.Joins name endpoint)
    (hname : ∀ table, (f table).name = table.name)
    (hkeys : ∀ table, table.HasKeyTo endpoint → (f table).HasKeyTo endpoint) :
    (schema.updateTable other f).Joins name endpoint := by
  obtain ⟨table, htable, hkey⟩ := h
  by_cases hsame : name = other
  · subst hsame
    refine ⟨f table, ?_, hkeys table hkey⟩
    rw [table?_updateTable_self hname, htable, Option.map_some]
  · refine ⟨table, ?_, hkey⟩
    rw [table?_updateTable_of_ne hname hsame, htable]

theorem linkJunction (h : schema.Joins name endpoint) (named : NamedRelation) :
    (linkJunction schema named).value.Joins name endpoint := by
  rw [linkJunction_value]
  exact h.withTable.updateTable (joinTable_name _ _) fun _ => Table.HasKeyTo.joinTable

theorem linkForeignKey (h : schema.Joins name endpoint) (relation : Relation) :
    (linkForeignKey schema relation).value.Joins name endpoint := by
  rw [linkForeignKey_value]
  exact h.updateTable (keyTable_name _ _) fun _ => Table.HasKeyTo.keyTable

end Schema.Joins

/-- After its own step a relation has its junction table. -/
theorem joins_linkJunction (schema : Schema) (named : NamedRelation)
    (hendpoint : endpoint = named.relation.source ∨ endpoint = named.relation.target) :
    (linkJunction schema named).value.Joins (junctionName named) endpoint := by
  obtain ⟨table, htable⟩ := schema.exists_table?_withTable_self (junctionName named)
  refine ⟨joinTable schema named.relation table, ?_, hasKeyTo_joinTable schema table hendpoint⟩
  rw [linkJunction_value, Schema.table?_updateTable_self (joinTable_name _ _), htable,
    Option.map_some]

/-! ### All relations -/

/-- The junction table of a relation has keys to both of its endpoints. -/
def Schema.HasJunction (schema : Schema) (named : NamedRelation) : Prop :=
  schema.Joins (junctionName named) named.relation.source ∧
    schema.Joins (junctionName named) named.relation.target

theorem Schema.HasJunction.exists_table (h : schema.HasJunction named) :
    ∃ table, schema.table? (junctionName named) = some table ∧
      table.HasKeyTo named.relation.source ∧ table.HasKeyTo named.relation.target := by
  obtain ⟨⟨table, htable, hsource⟩, ⟨same, hsame, htarget⟩⟩ := h
  cases htable.symm.trans hsame
  exact ⟨table, htable, hsource, htarget⟩

/-- When all steps are done, every many-to-many relation has its junction table. -/
theorem hasJunction_link {stated : List NamedRelation}
    (hnamed : named ∈ junctionRelations schema stated) :
    (link schema stated).value.HasJunction named := by
  have hjoined : ∀ named ∈ junctionRelations schema stated,
      (joinedSchema schema stated).HasJunction named :=
    linkEach_establishes (P := fun named schema => schema.HasJunction named)
      (fun schema named _ =>
        ⟨joins_linkJunction schema named (.inl rfl), joins_linkJunction schema named (.inr rfl)⟩)
      fun _ _ _ other _ h => ⟨h.1.linkJunction other, h.2.linkJunction other⟩
  have hkeyed : (keyedSchema schema stated).HasJunction named :=
    linkEach_preserves (P := fun schema => schema.HasJunction named) (hjoined named hnamed)
      fun _ relation _ h => ⟨h.1.linkForeignKey relation, h.2.linkForeignKey relation⟩
  -- the last pass leaves the tables as they are
  exact hkeyed

namespace Linking

/-- A many-to-many relation of the linked schema is one that got a junction table. -/
theorem exists_mem_junctionRelations {stated : List NamedRelation}
    (h : relation ∈ (link schema stated).value.relations) (hmany : relation.isManyToMany = true) :
    ∃ named ∈ junctionRelations schema stated, named.relation = relation := by
  obtain ⟨named, hnamed, rfl⟩ := List.mem_map.mp (mem_of_mem_keptRelations h)
  exact ⟨named, List.mem_filter.mpr ⟨hnamed, hmany⟩, rfl⟩

/-- **Many-to-many relations are joined.**  Whatever tables there are and in whatever order the
relations come, the first table of the junction name of a many-to-many relation has a column in its
primary key for either endpoint.  So some table of a parsed schema joins the two columns of each
many-to-many relation in it. -/
theorem many_to_many_joined :
    (∀ schema stated, ∀ named ∈ stated, named.relation.isManyToMany = true →
      ∃ table,
        (link schema stated).value.table? (junctionName (resolveRelation schema.tables named)) =
          some table ∧
        table.HasKeyTo (resolveEndpoint schema.tables named.relation.source) ∧
        table.HasKeyTo (resolveEndpoint schema.tables named.relation.target)) ∧
    ∀ mode source parsed, (parse mode source).outcome = .ok parsed →
      ∀ relation ∈ parsed.relations, relation.isManyToMany = true →
        ∃ table ∈ parsed.tables,
          table.HasKeyTo relation.source ∧ table.HasKeyTo relation.target := by
  refine ⟨fun schema stated named hnamed hmany =>
    ?_, fun mode source parsed h relation hmem hmany => ?_⟩
  · have hresolved : resolveRelation schema.tables named ∈ junctionRelations schema stated :=
      List.mem_filter.mpr ⟨List.mem_map_of_mem hnamed, hmany⟩
    exact (hasJunction_link hresolved).exists_table
  · obtain ⟨scan, -, rfl⟩ := parse_eq_ok h
    obtain ⟨named, hnamed, rfl⟩ := exists_mem_junctionRelations hmem hmany
    obtain ⟨table, htable, hkeys⟩ := (hasJunction_link hnamed).exists_table
    exact ⟨table, List.mem_of_find?_eq_some htable, hkeys⟩

/-- Two tables, one of them with an alias, and a third that names the first without a key. -/
def junctionExample : Schema where
  tables :=
    [{ name := "users", aliasName := some "U", columns := [{ name := "id", type := "int" }] },
     { name := "tags", columns := [{ name := "id", type := "int" }] },
     { name := "links"
       columns :=
        [{ name := "user", type := "int"
           reference := some { table := "U", column := "id" } }] }]

/-- The table that exists becomes the junction of a relation that is stated with the alias, and the
table of the second relation is made, whose two endpoints are one column. -/
theorem many_to_many_joined_of_two_relations :
    let first : NamedRelation :=
      ⟨⟨⟨"U", "id"⟩, ⟨"tags", "id"⟩, .manyToMany, none, none⟩, some "links"⟩
    let second : NamedRelation := ⟨⟨⟨"tags", "id"⟩, ⟨"tags", "id"⟩, .manyToMany, none, none⟩, none⟩
    (∃ table, (link junctionExample [first, second]).value.table? "links" = some table ∧
      table.HasKeyTo ⟨"users", "id"⟩ ∧ table.HasKeyTo ⟨"tags", "id"⟩) ∧
    (∃ table, (link junctionExample [first, second]).value.table? "tags_tags" = some table ∧
      table.HasKeyTo ⟨"tags", "id"⟩) ∧
    ∃ parsed, (parse .strict "Ref: a.x <> b.y".toList).outcome = .ok parsed ∧
      ∃ table ∈ parsed.tables, table.HasKeyTo ⟨"a", "x"⟩ ∧ table.HasKeyTo ⟨"b", "y"⟩ := by
  intro first second
  have hlinks := many_to_many_joined.1 junctionExample [first, second] first (by simp) rfl
  have htags := many_to_many_joined.1 junctionExample [first, second] second (by simp) rfl
  have hparse : (parse .strict "Ref: a.x <> b.y".toList).outcome =
      .ok
        { tables :=
            [{ name := "a_b"
               columns :=
                [{ name := "a_x", type := "int", primaryKey := true
                   reference := some ⟨"a", "x", some .manyToOne, none, none⟩ },
                 { name := "b_y", type := "int", primaryKey := true
                   reference := some ⟨"b", "y", some .manyToOne, none, none⟩ }] }]
          relations := [⟨⟨"a", "x"⟩, ⟨"b", "y"⟩, .manyToMany, none, none⟩] } := by
    with_unfolding_all rfl
  obtain ⟨table, htable, htag, -⟩ := htags
  exact ⟨hlinks, ⟨table, htable, htag⟩, _, hparse,
    many_to_many_joined.2 .strict _ _ hparse _ (List.mem_singleton_self _) rfl⟩

end Linking

end Dbml
