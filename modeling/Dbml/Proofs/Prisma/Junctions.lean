import Dbml.Proofs.Linking.CreatedTables
import Dbml.Proofs.Prisma.KeysAndDefaults
import Dbml.Proofs.Schema.Distinct
import Dbml.Proofs.Schema.RoundTrip
import Dbml.Proofs.Text.Joined

/-!
# Junctions, made and recognized

Linking makes a table for a many-to-many relation, and a model is that of a junction if the foreign
keys of its table lead to two or more tables.  The one does not imply the other: both ends of a
relation may be in one table.

* `refersFrom_linkForeignKeys`: of the relations from a column that is missing the first one adds
  it;
* `refersFrom_link_iff`: so what a table that linking makes refers to can be read off the relations
  (`Linking.IsTarget`);
* `isJunction_iff`: a table is a junction just if it refers to columns of two different tables.

`junction_model_of_created_table` puts them together.
-/

namespace Dbml

open Linking

variable {schema : Schema} {stated : List NamedRelation} {relation : Relation}
  {endpoint target : Endpoint}
  {table : Table} {name : String} {options : GeneratorOptions} {mode : Mode} {source : List Char}

/-! ### What a new table refers to -/

/-- All columns of the first table of the name refer to something. -/
def Schema.HasOnlyKeys (schema : Schema) (name : String) : Prop :=
  ∀ column ∈ schema.columnsOf name, column.reference.isSome = true

namespace Linking

/-- The relation is the first from its source. -/
def IsFirstFrom (relations : List Relation) (relation : Relation) : Prop :=
  relations.find? (·.source = relation.source) = some relation

/-- Many-to-many relations give a table of the name keys to their ends, and other relations give it
those columns that it lacks. -/
def IsTarget (schema : Schema) (stated : List NamedRelation) (name : String)
    (target : Endpoint) : Prop :=
  (∃ named ∈ junctionRelations schema stated, junctionName named = name ∧
    named.relation.HasEnd target) ∨
    ∃ relation, IsFirstFrom (keyRelations schema stated) relation ∧ relation.source.table = name ∧
      (joinedSchema schema stated).column? relation.source = none ∧ relation.target = target

theorem isFirstFrom_cons {first : Relation} {rest : List Relation} :
    IsFirstFrom (first :: rest) relation ↔
      first = relation ∨ first.source ≠ relation.source ∧ IsFirstFrom rest relation := by
  unfold IsFirstFrom
  rw [List.find?_cons]
  by_cases hsource : first.source = relation.source
  · simp [hsource]
  · have hne : first ≠ relation := by
      rintro rfl
      exact hsource rfl
    simp [hsource, hne]

/-- A relation adds a column to a table that has only keys, unless it finds one. -/
theorem columnsOf_linkForeignKey_of_hasOnlyKeys (h : schema.HasOnlyKeys name)
    (htable : schema.hasTable name = true) (relation : Relation) :
    (linkForeignKey schema relation).value.columnsOf name =
      schema.columnsOf name ++
        if relation.source.table = name ∧ schema.column? relation.source = none then
          [foreignKey schema relation]
        else [] := by
  rw [columnsOf_linkForeignKey]
  by_cases hname : name = relation.source.table
  · subst hname
    have hfind :
        ((schema.table? relation.source.table).getD { name := relation.source.table }).column?
          relation.source.column = schema.column? relation.source :=
      (Schema.column?_eq_find? schema relation.source).symm
    rw [if_pos ⟨rfl, htable⟩]
    cases hcolumn : schema.column? relation.source with
    | some column =>
        -- the column that is found has a reference already, as all of them have
        have hsame : updateFirst (·.name = relation.source.column) (attach relation)
            (schema.columnsOf relation.source.table) = schema.columnsOf relation.source.table :=
          (updateFirst_congr fun other hother =>
            attach_of_isSome (h other (List.mem_of_find?_eq_some hother))).trans
              (updateFirst_id _ _)
        simp only [keyTable, hfind, hcolumn]
        rw [if_neg (by simp), List.append_nil]
        exact hsame
    | none =>
        simp only [keyTable, hfind, hcolumn]
        rw [if_pos ⟨trivial, trivial⟩]
        rfl
  · rw [if_neg fun hboth => hname hboth.1, if_neg fun hboth => hname hboth.1.symm, List.append_nil]

theorem column?_linkForeignKey_eq_none (h : schema.HasOnlyKeys endpoint.table)
    (htable : schema.hasTable endpoint.table = true) :
    (linkForeignKey schema relation).value.column? endpoint = none ↔
      schema.column? endpoint = none ∧ relation.source ≠ endpoint := by
  rw [Schema.column?_eq_find?, columnsOf_linkForeignKey_of_hasOnlyKeys h htable, List.find?_append,
    Option.or_eq_none_iff, ← Schema.column?_eq_find?]
  refine and_congr_right fun hnone => ?_
  constructor
  · rintro hadded rfl
    rw [if_pos ⟨rfl, hnone⟩] at hadded
    simp [foreignKey] at hadded
  · intro hne
    split
    · rename_i hsource
      have hcolumn : relation.source.column ≠ endpoint.column := fun hsame =>
        hne (Endpoint.eq_iff.mpr ⟨hsource.1, hsame⟩)
      simp [foreignKey, hcolumn]
    · rfl

/-- Of the relations from a column that is missing the first one adds it. -/
theorem refersFrom_linkForeignKeys (h : schema.HasOnlyKeys name)
    (htable : schema.hasTable name = true) (relations : List Relation) (target : Endpoint) :
    (linkEach linkForeignKey schema relations).value.RefersFrom name target ↔
      schema.RefersFrom name target ∨
        ∃ relation, IsFirstFrom relations relation ∧ relation.source.table = name ∧
          schema.column? relation.source = none ∧ relation.target = target := by
  induction relations generalizing schema with
  | nil => simp [IsFirstFrom]
  | cons first rest ih =>
      have hcolumns := columnsOf_linkForeignKey_of_hasOnlyKeys h htable first
      have honly : (linkForeignKey schema first).value.HasOnlyKeys name := by
        intro column hcolumn
        rw [hcolumns, List.mem_append] at hcolumn
        rcases hcolumn with hold | hnew
        · exact h column hold
        · split at hnew
          · rw [List.mem_singleton.mp hnew]
            rfl
          · contradiction
      have hrefers : (linkForeignKey schema first).value.RefersFrom name target ↔
          schema.RefersFrom name target ∨
            first.source.table = name ∧ schema.column? first.source = none ∧
              first.target = target := by
        have hkey : (foreignKey schema first).refersTo target = true ↔ first.target = target := by
          simp [Column.refersTo_iff, foreignKey, Relation.reference, Reference.target]
        simp only [Schema.RefersFrom, hcolumns, List.mem_append, or_and_right, exists_or]
        refine or_congr_right ?_
        split
        · simp_all
        · simp_all
      have hmissing : ∀ {endpoint : Endpoint}, endpoint.table = name →
          ((linkForeignKey schema first).value.column? endpoint = none ↔
            schema.column? endpoint = none ∧ first.source ≠ endpoint) := by
        rintro endpoint rfl
        exact column?_linkForeignKey_eq_none h htable
      rw [linkEach_cons, ih honly (by rwa [hasTable_linkForeignKey]), hrefers]
      constructor
      · rintro ((hold | ⟨hname, hnone, htarget⟩) | ⟨relation, hfirst, hname, hnone, htarget⟩)
        · exact .inl hold
        · exact .inr ⟨first, isFirstFrom_cons.mpr (.inl rfl), hname, hnone, htarget⟩
        · obtain ⟨hbefore, hne⟩ := (hmissing hname).mp hnone
          exact .inr ⟨relation, isFirstFrom_cons.mpr (.inr ⟨hne, hfirst⟩), hname, hbefore, htarget⟩
      · rintro (hold | ⟨relation, hfirst, hname, hnone, htarget⟩)
        · exact .inl (.inl hold)
        · rcases isFirstFrom_cons.mp hfirst with rfl | ⟨hne, hrest⟩
          · exact .inl (.inr ⟨hname, hnone, htarget⟩)
          · exact .inr ⟨relation, hrest, hname, (hmissing hname).mpr ⟨hnone, hne⟩, htarget⟩

theorem hasTable_joinedSchema (hthere : (link schema stated).value.hasTable name = true) :
    (joinedSchema schema stated).hasTable name = true := by
  rw [← hasTable_linkForeignKeys (keyRelations schema stated)]
  exact hthere

theorem hasOnlyKeys_joinedSchema (hnew : schema.hasTable name = false)
    (stated : List NamedRelation) :
    (joinedSchema schema stated).HasOnlyKeys name :=
  have hresolved : (resolvedSchema schema).hasTable name = false :=
    (hasTable_resolvedSchema schema name).trans hnew
  ((Schema.IsKeyedBy.of_hasTable_eq_false hresolved).linkJunctions
    (junctionRelations schema stated)).isSome_reference

/-- The columns that a table refers to which linking makes. -/
theorem refersFrom_link_iff (hnew : schema.hasTable name = false)
    (hthere : (link schema stated).value.hasTable name = true) (target : Endpoint) :
    (link schema stated).value.RefersFrom name target ↔ IsTarget schema stated name target := by
  have hnone : (resolvedSchema schema).table? name = none := by
    simpa [Schema.hasTable_eq_isSome] using (hasTable_resolvedSchema schema name).trans hnew
  have hbefore : ¬ (resolvedSchema schema).RefersFrom name target := by
    rintro ⟨column, hcolumn, -⟩
    rw [Schema.columnsOf_of_none hnone] at hcolumn
    contradiction
  have hjoined : (joinedSchema schema stated).RefersFrom name target ↔
      ∃ named ∈ junctionRelations schema stated,
        junctionName named = name ∧ named.relation.HasEnd target := by
    rw [joinedSchema, refersFrom_linkJunctions]
    exact or_iff_right hbefore
  calc (link schema stated).value.RefersFrom name target
      ↔ (keyedSchema schema stated).RefersFrom name target := Iff.rfl
    _ ↔ IsTarget schema stated name target := by
        rw [keyedSchema, refersFrom_linkForeignKeys (hasOnlyKeys_joinedSchema hnew stated)
          (hasTable_joinedSchema hthere), hjoined]
        rfl

end Linking

/-! ### Models of junctions -/

namespace Prisma

/-- The model is that of a junction: it begins with a key of its own, and no other field is marked
as one. -/
def Model.IsOfJunction (options : GeneratorOptions) (table : Table) (model : Model) : Prop :=
  (∃ rest, model.text = "model " ++ Naming.className table.name ++
    " \x7b\n  id Int @id @default(autoincrement())" ++ rest) ∧
  model.scalars = junctionKey :: table.columns.map (scalarField options true) ∧
  ∀ column ∈ table.columns, (scalarField options true column).isId = false

/-- The model has a field for each column and no other, and those of the primary key are marked. -/
def Model.IsOfColumns (options : GeneratorOptions) (table : Table) (model : Model) : Prop :=
  model.scalars = table.columns.map (scalarField options false) ∧
  ∀ column ∈ table.columns, (scalarField options false column).isId = column.primaryKey

theorem isJunction_iff : isJunction table = true ↔
    ∃ a b : Endpoint, (∃ column ∈ table.columns, column.refersTo a = true) ∧
      (∃ column ∈ table.columns, column.refersTo b = true) ∧ a.table ≠ b.table := by
  have hmem : ∀ name, name ∈ table.foreignKeys.map (·.2.table) ↔
      ∃ a : Endpoint, (∃ column ∈ table.columns, column.refersTo a = true) ∧ a.table = name := by
    intro name
    constructor
    · intro hname
      obtain ⟨⟨column, r⟩, hkey, rfl⟩ := List.mem_map.mp hname
      obtain ⟨other, hcolumn, hother⟩ := List.mem_filterMap.mp hkey
      obtain ⟨reference, hreference, hpair⟩ := Option.map_eq_some_iff.mp hother
      cases hpair
      exact ⟨r.target, ⟨column, hcolumn, Column.refersTo_iff.mpr ⟨r, hreference, rfl⟩⟩, rfl⟩
    · rintro ⟨a, ⟨column, hcolumn, hrefers⟩, rfl⟩
      obtain ⟨r, hreference, rfl⟩ := Column.refersTo_iff.mp hrefers
      exact List.mem_map.mpr ⟨(column, r), List.mem_filterMap.mpr ⟨column, hcolumn, by
        rw [hreference, Option.map_some]⟩, rfl⟩
  rw [isJunction, decide_eq_true_iff, two_le_length_eraseDups_iff]
  constructor
  · rintro ⟨first, hfirst, second, hsecond, hne⟩
    obtain ⟨a, ha, rfl⟩ := (hmem first).mp hfirst
    obtain ⟨b, hb, rfl⟩ := (hmem second).mp hsecond
    exact ⟨a, b, ha, hb, hne⟩
  · rintro ⟨a, b, ha, hb, hne⟩
    exact ⟨a.table, (hmem _).mpr ⟨a, ha, rfl⟩, b.table, (hmem _).mpr ⟨b, hb, rfl⟩, hne⟩

theorem exists_text_of_scalars {model : Model} {field : ScalarField} {rest : List ScalarField}
    (h : model.scalars = field :: rest) :
    ∃ more, model.text = "model " ++ model.name ++ " \x7b\n  " ++ field.text ++ more := by
  obtain ⟨fields, hfields⟩ := exists_intercalate_cons "\n  " field.text (rest.map ScalarField.text)
  obtain ⟨others, hothers⟩ : ∃ others, model.sections = (field.text ++ fields) :: others := by
    rw [Model.sections, h, List.map_cons, List.filterMap_cons, if_neg (by simp), hfields]
    exact ⟨_, rfl⟩
  obtain ⟨sections, hsections⟩ := exists_intercalate_cons "\n\n  " (field.text ++ fields) others
  refine ⟨fields ++ sections ++ "\n\x7d", ?_⟩
  rw [Model.text, hothers, hsections]
  simp only [String.append_assoc]

/-- The model of a table is that of a junction just if the table is one. -/
theorem isOfJunction_model_iff (options : GeneratorOptions) (schema : Schema) (table : Table) :
    (model options schema table).value.IsOfJunction options table ↔ isJunction table = true := by
  constructor
  · rintro ⟨-, hscalars, -⟩
    by_contra hjunction
    have hlength := congrArg List.length hscalars
    rw [scalars_model, if_neg hjunction, List.nil_append, List.length_cons, List.length_map,
      List.length_map] at hlength
    omega
  · intro hjunction
    have hscalars : (model options schema table).value.scalars =
        junctionKey :: table.columns.map (scalarField options true) := by
      rw [scalars_model, hjunction]
      rfl
    have hkey : junctionKey.text = "id Int @id @default(autoincrement())" := by decide
    obtain ⟨more, hmore⟩ := exists_text_of_scalars hscalars
    refine ⟨⟨more, ?_⟩, hscalars, fun column _ => ?_⟩
    · rw [hmore, hkey]
      have hopen : " \x7b\n  id Int @id @default(autoincrement())" =
          " \x7b\n  " ++ "id Int @id @default(autoincrement())" := by decide
      rw [hopen]
      simp only [String.append_assoc]
      rfl
    · rw [isId_scalarField, Bool.not_true, Bool.and_false]

theorem isOfColumns_model (options : GeneratorOptions) (schema : Schema)
    (h : isJunction table = false) :
    (model options schema table).value.IsOfColumns options table := by
  constructor
  · rw [scalars_model, h]
    rfl
  · intro column _
    rw [isId_scalarField, Bool.not_false, Bool.and_true]

/-- **The model of a table that linking makes.**  Let the table be made for many-to-many relations,
one of which is given.  Its model is that of a junction just if the two ends of this relation are in
different tables, or the table refers to a further table: for another relation whose junction it is,
or by a column that a relation from it adds.  Otherwise the model has a field for each column, of
which those of the primary key are marked. -/
theorem junction_model_of_created_table (h : (parse mode source).outcome = .ok schema)
    (options : GeneratorOptions) :
    ∃ scan, (Source.scan mode source).outcome = .ok scan ∧
      ∀ table ∈ schema.tables.drop scan.tables.length,
        (∃ named ∈ junctionRelations scan.schema scan.relations, junctionName named = table.name) ∧
        (∀ named ∈ junctionRelations scan.schema scan.relations, junctionName named = table.name →
          ((model options schema table).value.IsOfJunction options table ↔
            named.relation.source.table ≠ named.relation.target.table ∨
              ∃ target, IsTarget scan.schema scan.relations table.name target ∧
                target.table ≠ named.relation.source.table)) ∧
        (¬ (model options schema table).value.IsOfJunction options table →
          (model options schema table).value.IsOfColumns options table) := by
  obtain ⟨scan, hscan, rfl⟩ := parse_eq_ok h
  refine ⟨scan, hscan, fun table htable => ?_⟩
  obtain ⟨hnew, hfound⟩ := (onlyNewNames_link scan.schema scan.relations).table?_of_mem_drop htable
  have hthere : (link scan.schema scan.relations).value.hasTable table.name = true := by
    rw [Schema.hasTable_eq_isSome, hfound, Option.isSome_some]
  have htarget : ∀ target, (∃ column ∈ table.columns, column.refersTo target = true) ↔
      IsTarget scan.schema scan.relations table.name target := by
    intro target
    rw [← refersFrom_link_iff hnew hthere, Schema.RefersFrom, Schema.columnsOf_of_table? hfound]
  refine ⟨?_, fun named hnamed hname => ?_, fun hplain => ?_⟩
  · obtain ⟨before, creator, after, hsplit, hname, -⟩ := exists_creator hnew hthere
    exact ⟨creator, hsplit ▸ List.mem_append_right _ List.mem_cons_self, hname⟩
  · have hends : ∀ target, named.relation.HasEnd target →
        IsTarget scan.schema scan.relations table.name target :=
      fun target hend => .inl ⟨named, hnamed, hname, hend⟩
    rw [isOfJunction_model_iff, isJunction_iff]
    simp only [htarget]
    constructor
    · rintro ⟨a, b, ha, hb, hne⟩
      -- one of two different tables is not that of the source
      by_cases hsame : a.table = named.relation.source.table
      · exact .inr ⟨b, hb, fun hother => hne (hsame.trans hother.symm)⟩
      · exact .inr ⟨a, ha, hsame⟩
    · rintro (hne | ⟨target, hadded, hne⟩)
      · exact ⟨_, _, hends _ (.inl rfl), hends _ (.inr rfl), hne⟩
      · exact ⟨target, _, hadded, hends _ (.inl rfl), hne⟩
  · rw [isOfJunction_model_iff, Bool.not_eq_true] at hplain
    exact isOfColumns_model options _ hplain

/-- A relation between two tables, only one of which is declared. -/
def twoTablesSource : String :=
  "Table a \x7b\n  x int\n\x7d\nRef: a.x <> b.y"

/-- The table that is made for the relation has the model of a junction. -/
theorem junction_model_of_created_table_of_two_tables :
    ∃ schema scan, (parse .strict twoTablesSource.toList).outcome = .ok schema ∧
      (Source.scan .strict twoTablesSource.toList).outcome = .ok scan ∧
      ∃ table ∈ schema.tables.drop scan.tables.length, table.name = "a_b" ∧
        (model {} schema table).value.IsOfJunction {} table := by
  let named : NamedRelation := { relation := ⟨⟨"a", "x"⟩, ⟨"b", "y"⟩, .manyToMany, none, none⟩ }
  have hparse : (parse .strict twoTablesSource.toList).outcome =
      .ok
        { tables :=
            [{ name := "a", columns := [{ name := "x", type := "int" }] },
             { name := "a_b"
               columns :=
                [{ name := "a_x", type := "int", primaryKey := true
                   reference := some ⟨"a", "x", some .manyToOne, none, none⟩ },
                 { name := "b_y", type := "int", primaryKey := true
                   reference := some ⟨"b", "y", some .manyToOne, none, none⟩ }] }]
          relations := [named.relation] } := by
    with_unfolding_all rfl
  have hscan : (Source.scan .strict twoTablesSource.toList).outcome =
      .ok
        { tables := [{ name := "a", columns := [{ name := "x", type := "int" }] }]
          relations := [named] } := by
    with_unfolding_all rfl
  obtain ⟨scan, hreached, hmodels⟩ := junction_model_of_created_table hparse {}
  cases hscan.symm.trans hreached
  refine ⟨_, _, hparse, hscan, _, List.mem_singleton_self _, rfl, ?_⟩
  refine ((hmodels _ (List.mem_singleton_self _)).2.1 named ?_ rfl).mpr (.inl (by decide))
  decide

/-- A relation between two columns of one table. -/
def oneTableSource : String :=
  "Table a \x7b\n  x int\n  y int\n\x7d\nRef: a.x <> a.y"

/-- **A table that linking makes need not have the model of a junction.**  Where both ends of the
relation are in one table, both of its columns are marked as keys, and there is no other key. -/
theorem no_junction_model_within_one_table :
    ∃ schema scan, (parse .strict oneTableSource.toList).outcome = .ok schema ∧
      (Source.scan .strict oneTableSource.toList).outcome = .ok scan ∧
      ∃ table ∈ schema.tables.drop scan.tables.length,
        (∃ named ∈ junctionRelations scan.schema scan.relations, junctionName named = table.name) ∧
        ¬ (model {} schema table).value.IsOfJunction {} table ∧
        (model {} schema table).value.scalars.map (fun field => (field.name, field.isId)) =
          [("a_x", true), ("a_y", true)] := by
  let named : NamedRelation := { relation := ⟨⟨"a", "x"⟩, ⟨"a", "y"⟩, .manyToMany, none, none⟩ }
  have hparse : (parse .strict oneTableSource.toList).outcome =
      .ok
        { tables :=
            [{ name := "a"
               columns := [{ name := "x", type := "int" }, { name := "y", type := "int" }] },
             { name := "a_a"
               columns :=
                [{ name := "a_x", type := "int", primaryKey := true
                   reference := some ⟨"a", "x", some .manyToOne, none, none⟩ },
                 { name := "a_y", type := "int", primaryKey := true
                   reference := some ⟨"a", "y", some .manyToOne, none, none⟩ }] }]
          relations := [named.relation] } := by
    with_unfolding_all rfl
  have hscan : (Source.scan .strict oneTableSource.toList).outcome =
      .ok
        { tables :=
            [{ name := "a"
               columns := [{ name := "x", type := "int" }, { name := "y", type := "int" }] }]
          relations := [named] } := by
    with_unfolding_all rfl
  refine ⟨_, _, hparse, hscan, _, List.mem_singleton_self _, ⟨named, by decide, rfl⟩, ?_, by decide⟩
  rw [isOfJunction_model_iff]
  decide

end Prisma

end Dbml
