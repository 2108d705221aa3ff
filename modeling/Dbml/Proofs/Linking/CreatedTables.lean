import Mathlib.Data.Option.Basic
import Dbml.Proofs.Linking.Frame
import Dbml.Proofs.Linking.Repetition

/-!
# The primary key of a table that linking makes

A table is made for the first many-to-many relation whose junction name no table bears, with a
column for either endpoint.  It does not serve this relation alone: another one with the same
junction name, which two relations may have been given or come to by the names of their tables,
finds the table there and adds a column for each endpoint that it lacks.

* `IsKeyedBy.linkJunctions`: as long as junctions are made, all columns of such a table are in the
  primary key, and they refer to the endpoints of its relations in the order in which these come
  (`newEnds`).
* `keyTargets_linkForeignKey`: a foreign key that is added later is not in the primary key, and none
  is attached, since all columns refer to something.
* `onlyNewNames_link`: a table that was not there from the outset is the only one of its name.

`primaryKey_of_created_table` puts them together: the two columns for the first relation are the
whole primary key just if no other relation with this junction name has a further endpoint.
-/

namespace Dbml

open Linking

/-- What the columns of a primary key refer to, in their order. -/
def keyTargets (columns : List Column) : List (Option Endpoint) :=
  (columns.filter (·.primaryKey)).map fun column => column.reference.map Reference.target

/-- The endpoints of relations beyond those that are known: for each relation those that are not
known before it. -/
def newEnds (known : List Endpoint) : List NamedRelation → List Endpoint
  | [] => []
  | named :: rest =>
    let ends := [named.relation.source, named.relation.target].filter fun endpoint =>
      endpoint ∉ known
    ends ++ newEnds (known ++ ends) rest

variable {schema current : Schema} {stated : List NamedRelation} {named : NamedRelation}
  {relation : Relation} {table : Table} {name : String} {known : List Endpoint}

/-- There is nothing new just if all endpoints are known. -/
theorem newEnds_eq_nil {relations : List NamedRelation} :
    newEnds known relations = [] ↔
      ∀ named ∈ relations, ∀ endpoint, named.relation.HasEnd endpoint → endpoint ∈ known := by
  induction relations generalizing known with
  | nil => simp [newEnds]
  | cons first rest ih =>
      have hfirst : ([first.relation.source, first.relation.target].filter fun endpoint =>
          endpoint ∉ known) = [] ↔ ∀ endpoint, first.relation.HasEnd endpoint →
            endpoint ∈ known := by
        simp [List.filter_eq_nil_iff, Relation.HasEnd]
      rw [newEnds, List.append_eq_nil_iff, hfirst, List.forall_mem_cons]
      refine and_congr_right fun hknown => ?_
      rw [hfirst.mpr hknown, List.append_nil, ih]

/-! ### While junctions are made -/

/-- The first table of the name has columns in the primary key only, and they refer to the
endpoints. -/
structure Schema.IsKeyedBy (schema : Schema) (name : String) (ends : List Endpoint) : Prop where
  primaryKey : ∀ column ∈ schema.columnsOf name, column.primaryKey = true
  targets : (schema.columnsOf name).map (fun column => column.reference.map Reference.target) =
    ends.map some

namespace Schema.IsKeyedBy

theorem of_hasTable_eq_false (h : schema.hasTable name = false) : schema.IsKeyedBy name [] := by
  have hnone : schema.table? name = none := by simpa [hasTable_eq_isSome] using h
  constructor <;> simp [columnsOf_of_none hnone]

theorem keyTargets_columnsOf {ends : List Endpoint} (h : schema.IsKeyedBy name ends) :
    keyTargets (schema.columnsOf name) = ends.map some := by
  rw [keyTargets, List.filter_eq_self.mpr h.primaryKey, h.targets]

theorem isSome_reference {ends : List Endpoint} (h : schema.IsKeyedBy name ends) :
    ∀ column ∈ schema.columnsOf name, column.reference.isSome = true := by
  intro column hcolumn
  have htarget : column.reference.map Reference.target ∈ ends.map some :=
    h.targets ▸ List.mem_map_of_mem hcolumn
  obtain ⟨endpoint, -, hendpoint⟩ := List.mem_map.mp htarget
  rw [← Option.isSome_map (f := Reference.target), ← hendpoint, Option.isSome_some]

/-- The table refers to the endpoints and to nothing else. -/
theorem refersFrom_iff {ends : List Endpoint} (h : schema.IsKeyedBy name ends)
    (endpoint : Endpoint) :
    schema.RefersFrom name endpoint ↔ endpoint ∈ ends := by
  have htarget : ∀ column : Column, column.refersTo endpoint = true ↔
      column.reference.map Reference.target = some endpoint := by
    intro column
    rw [Column.refersTo_iff, Option.map_eq_some_iff]
  calc schema.RefersFrom name endpoint
      ↔ some endpoint ∈
          (schema.columnsOf name).map (fun column => column.reference.map Reference.target) := by
        rw [List.mem_map]
        exact exists_congr fun column => and_congr_right fun _ => htarget column
    _ ↔ endpoint ∈ ends := by
        rw [h.targets, List.mem_map_of_injective (Option.some_injective _)]

theorem linkJunction (h : schema.IsKeyedBy name known) (hname : junctionName named = name) :
    (linkJunction schema named).value.IsKeyedBy name
      (known ++ [named.relation.source, named.relation.target].filter fun endpoint =>
        endpoint ∉ known) := by
  have hmissing : ([named.relation.source, named.relation.target].filter fun endpoint =>
      !((schema.table? name).getD { name }).columns.any (·.refersTo endpoint)) =
        [named.relation.source, named.relation.target].filter fun endpoint => endpoint ∉ known := by
    refine List.filter_congr fun endpoint _ => ?_
    rw [Bool.eq_iff_iff, Bool.not_eq_true', any_refersTo_eq_false, h.refersFrom_iff,
      decide_eq_true_iff]
  constructor
  · intro column hcolumn
    rw [columnsOf_linkJunction, if_pos hname.symm] at hcolumn
    rcases List.mem_append.mp hcolumn with hold | hnew
    · obtain ⟨before, hbefore, rfl⟩ := List.mem_map.mp hold
      exact promote_primaryKey (h.primaryKey before hbefore)
    · exact primaryKey_of_mem_missingColumns hnew
  · rw [columnsOf_linkJunction, if_pos hname.symm, List.map_append, List.map_append, ← h.targets,
      List.map_map, missingColumns, hmissing, List.map_map]
    refine congrArg₂ _ (List.map_congr_left fun column _ => ?_) rfl
    rw [Function.comp_apply, promote_reference]

theorem linkJunction_of_ne (h : schema.IsKeyedBy name known) (hname : junctionName named ≠ name) :
    (Linking.linkJunction schema named).value.IsKeyedBy name known := by
  have hsame : (Linking.linkJunction schema named).value.columnsOf name =
      schema.columnsOf name := by
    rw [columnsOf_linkJunction, if_neg hname.symm]
  exact ⟨hsame ▸ h.primaryKey, hsame ▸ h.targets⟩

/-- Each relation with the junction name adds the endpoints that are new with it. -/
theorem linkJunctions (h : schema.IsKeyedBy name known) (relations : List NamedRelation) :
    (linkEach Linking.linkJunction schema relations).value.IsKeyedBy name
      (known ++ newEnds known (relations.filter (junctionName · = name))) := by
  induction relations generalizing schema known with
  | nil => simpa [newEnds] using h
  | cons first rest ih =>
      rw [linkEach_cons]
      by_cases hname : junctionName first = name
      · rw [List.filter_cons_of_pos (by simpa using hname), newEnds, ← List.append_assoc]
        exact ih (h.linkJunction hname)
      · rw [List.filter_cons_of_neg (by simpa using hname)]
        exact ih (h.linkJunction_of_ne hname)

end Schema.IsKeyedBy

/-! ### While foreign keys are added -/

/-- Where all columns refer to something, a relation adds a column that is not in the primary key,
if it does anything. -/
theorem keyTargets_linkForeignKey
    (h : ∀ column ∈ schema.columnsOf name, column.reference.isSome = true) (relation : Relation) :
    (∀ column ∈ (linkForeignKey schema relation).value.columnsOf name,
        column.reference.isSome = true) ∧
      keyTargets ((linkForeignKey schema relation).value.columnsOf name) =
        keyTargets (schema.columnsOf name) := by
  rw [columnsOf_linkForeignKey]
  split
  · unfold keyTable
    split
    · -- no column lacks a reference, so that none is attached
      have hsame : (((schema.table? name).getD { name }).updateColumn relation.source.column
          (attach relation)).columns = schema.columnsOf name := by
        have hcongr : updateFirst (·.name = relation.source.column) (attach relation)
            (schema.columnsOf name) =
              updateFirst (·.name = relation.source.column) id (schema.columnsOf name) :=
          updateFirst_congr fun column hcolumn =>
            attach_of_isSome (h column (List.mem_of_find?_eq_some hcolumn))
        exact hcongr.trans (updateFirst_id _ _)
      rw [hsame]
      exact ⟨h, rfl⟩
    · refine ⟨List.forall_mem_append.mpr ⟨h, List.forall_mem_singleton.mpr rfl⟩, ?_⟩
      simp [keyTargets, foreignKey, Schema.columnsOf]
  · exact ⟨h, rfl⟩

theorem Schema.IsKeyedBy.keyTargets_keyedSchema {ends : List Endpoint}
    (h : (joinedSchema schema stated).IsKeyedBy name ends) :
    keyTargets ((keyedSchema schema stated).columnsOf name) = ends.map some :=
  (linkEach_preserves
    (P := fun current => (∀ column ∈ current.columnsOf name, column.reference.isSome = true) ∧
      keyTargets (current.columnsOf name) = ends.map some)
    ⟨h.isSome_reference, h.keyTargets_columnsOf⟩ fun _ relation _ hcurrent =>
      have hstep := keyTargets_linkForeignKey hcurrent.1 relation
      ⟨hstep.1, hstep.2.trans hcurrent.2⟩).2

/-! ### Tables that were not there -/

/-- Behind the tables of the first schema, the second one has tables whose names are new and
distinct. -/
def Schema.OnlyNewNames (before after : Schema) : Prop :=
  ∃ names : List String, after.tables.map (·.name) = before.tables.map (·.name) ++ names ∧
    names.Nodup ∧ ∀ name ∈ names, before.hasTable name = false

namespace Schema.OnlyNewNames

theorem updateTable {f : Table → Table} (h : schema.OnlyNewNames current)
    (hname : ∀ table, (f table).name = table.name) :
    schema.OnlyNewNames (current.updateTable name f) := by
  obtain ⟨names, hsplit, hnodup, hnew⟩ := h
  exact ⟨names, (map_updateFirst hname).trans hsplit, hnodup, hnew⟩

theorem withTable (h : schema.OnlyNewNames current) (name : String) :
    schema.OnlyNewNames (current.withTable name) := by
  cases hname : current.hasTable name with
  | true => simpa only [Schema.withTable, hname, if_true] using h
  | false =>
      obtain ⟨names, hsplit, hnodup, hnew⟩ := h
      have hfresh : name ∉ schema.tables.map (·.name) ++ names :=
        hsplit ▸ Schema.hasTable_eq_false_iff.mp hname
      rw [List.mem_append, not_or] at hfresh
      have hbefore : schema.hasTable name = false := Schema.hasTable_eq_false_iff.mpr hfresh.1
      refine ⟨names ++ [name], ?_, ?_, ?_⟩
      · rw [Schema.withTable, hname, if_neg Bool.false_ne_true, Schema.addTable, List.map_append,
          hsplit, List.append_assoc]
        rfl
      · rw [← List.concat_eq_append, List.nodup_concat]
        exact ⟨hfresh.2, hnodup⟩
      · exact List.forall_mem_append.mpr ⟨hnew, List.forall_mem_singleton.mpr hbefore⟩

/-- A table that comes behind those of the first schema is found by its name. -/
theorem table?_of_mem_drop (h : schema.OnlyNewNames current)
    (htable : table ∈ current.tables.drop schema.tables.length) :
    schema.hasTable table.name = false ∧ current.table? table.name = some table := by
  obtain ⟨names, hsplit, hnodup, hnew⟩ := h
  have hadded : (current.tables.drop schema.tables.length).map (·.name) = names := by
    rw [List.map_drop, hsplit, List.drop_left' (List.length_map _)]
  have hkept : (current.tables.take schema.tables.length).map (·.name) =
      schema.tables.map (·.name) := by
    rw [List.map_take, hsplit, List.take_left' (List.length_map _)]
  have hname : schema.hasTable table.name = false :=
    hnew _ (hadded ▸ List.mem_map_of_mem htable)
  -- the name is none of those that come first, and the only one of those that come behind them
  have hnone : (current.tables.take schema.tables.length).find? (·.name = table.name) = none := by
    rw [List.find?_eq_none]
    intro other hother hsame
    have hmem : other.name ∈ schema.tables.map (·.name) := hkept ▸ List.mem_map_of_mem hother
    exact Schema.hasTable_eq_false_iff.mp hname (of_decide_eq_true hsame ▸ hmem)
  have hfound : (current.tables.drop schema.tables.length).find? (·.name = table.name) =
    some table :=
    find?_eq_some_of_nodup (hadded ▸ hnodup) htable
  refine ⟨hname, ?_⟩
  rw [Schema.table?, ← List.take_append_drop schema.tables.length current.tables, List.find?_append,
    hnone, Option.none_or, hfound]

end Schema.OnlyNewNames

namespace Linking

theorem onlyNewNames_link (schema : Schema) (stated : List NamedRelation) :
    schema.OnlyNewNames (link schema stated).value := by
  have hresolved : schema.OnlyNewNames (resolvedSchema schema) := by
    refine ⟨[], ?_, List.nodup_nil, List.forall_mem_nil _⟩
    rw [resolvedSchema, resolveTables, List.map_map, List.append_nil]
    rfl
  have hjoined : schema.OnlyNewNames (joinedSchema schema stated) := by
    refine linkEach_preserves (P := schema.OnlyNewNames) hresolved fun current named _ h => ?_
    rw [linkJunction_value]
    exact (h.withTable _).updateTable (joinTable_name _ _)
  refine linkEach_preserves (P := schema.OnlyNewNames) hjoined fun current relation _ h => ?_
  rw [linkForeignKey_value]
  exact h.updateTable (keyTable_name _ _)

theorem hasTable_linkJunction (schema : Schema) (named : NamedRelation) (name : String) :
    (linkJunction schema named).value.hasTable name = true ↔
      schema.hasTable name = true ∨ junctionName named = name := by
  rw [Schema.hasTable_eq_isSome, Schema.hasTable_eq_isSome, table?_linkJunction]
  by_cases hname : name = junctionName named
  · simp [hname]
  · simp [hname, Ne.symm hname]

theorem hasTable_linkJunctions (schema : Schema) (relations : List NamedRelation) (name : String) :
    (linkEach linkJunction schema relations).value.hasTable name = true ↔
      schema.hasTable name = true ∨ ∃ named ∈ relations, junctionName named = name := by
  induction relations generalizing schema with
  | nil => simp
  | cons first rest ih =>
      rw [linkEach_cons, ih, hasTable_linkJunction, List.exists_mem_cons_iff, or_assoc]

theorem hasTable_resolvedSchema (schema : Schema) (name : String) :
    (resolvedSchema schema).hasTable name = schema.hasTable name := by
  rw [Schema.hasTable, resolvedSchema, resolveTables, List.any_map]
  rfl

/-- A table that is not there in the beginning is made for a relation with its name. -/
theorem exists_creator (hbefore : schema.hasTable name = false)
    (hafter : (link schema stated).value.hasTable name = true) :
    ∃ before creator after, junctionRelations schema stated = before ++ creator :: after ∧
      junctionName creator = name ∧
      (linkEach linkJunction (resolvedSchema schema) before).value.hasTable name = false := by
  have hjoined : (joinedSchema schema stated).hasTable name = true := by
    rw [← hasTable_linkForeignKeys (keyRelations schema stated) name]
    exact hafter
  rw [joinedSchema, hasTable_linkJunctions, hasTable_resolvedSchema, hbefore] at hjoined
  obtain ⟨named, hnamed, hname⟩ := hjoined.resolve_left Bool.false_ne_true
  obtain ⟨creator, hcreator⟩ : ∃ creator,
      (junctionRelations schema stated).find? (junctionName · = name) = some creator :=
    Option.isSome_iff_exists.mp (List.find?_isSome.mpr ⟨named, hnamed, decide_eq_true hname⟩)
  obtain ⟨hfirst, before, after, hsplit, hearlier⟩ := List.find?_eq_some_iff_append.mp hcreator
  refine ⟨before, creator, after, hsplit, of_decide_eq_true hfirst, ?_⟩
  rw [← Bool.not_eq_true, hasTable_linkJunctions, hasTable_resolvedSchema, hbefore]
  rintro (hthere | ⟨earlier, hmem, hsame⟩)
  · contradiction
  · simpa [hsame] using hearlier earlier hmem

/-! ### All together -/

/-- The columns for the first relation are the whole primary key just if there are no more
targets. -/
theorem length_keys_eq_two_iff {columns : List Column} {source target : Endpoint}
    {others : List Endpoint}
    (h : keyTargets columns = [some source, some target] ++ others.map some) :
    (columns.filter (·.primaryKey)).length = 2 ↔ others = [] := by
  have hlength : (columns.filter (·.primaryKey)).length = 2 + others.length := by
    calc (columns.filter (·.primaryKey)).length
        = (keyTargets columns).length := by rw [keyTargets, List.length_map]
      _ = 2 + others.length := by
          rw [h, List.length_append, List.length_map]
          rfl
  rw [hlength, ← List.length_eq_zero_iff]
  omega

/-- **The primary key of a table that linking makes.**  The relation that makes it finds no table of
its name.  First in the primary key are a column that refers to its source and one that refers to
its target.  Behind them come those for the other relations with this junction name, one for each
endpoint that is new with a relation.  So there are the first two alone just if none of these
relations has another endpoint. -/
theorem primaryKey_of_created_table (schema : Schema) (stated : List NamedRelation)
    (htable : table ∈ (link schema stated).value.tables.drop schema.tables.length) :
    ∃ before creator after, junctionRelations schema stated = before ++ creator :: after ∧
      junctionName creator = table.name ∧
      (linkEach linkJunction (resolvedSchema schema) before).value.hasTable table.name = false ∧
      keyTargets table.columns =
        [some creator.relation.source, some creator.relation.target] ++
          (newEnds [creator.relation.source, creator.relation.target]
            (after.filter (junctionName · = table.name))).map some ∧
      ((table.columns.filter (·.primaryKey)).length = 2 ↔
        ∀ other ∈ after, junctionName other = table.name →
          ∀ endpoint, other.relation.HasEnd endpoint → creator.relation.HasEnd endpoint) := by
  obtain ⟨hnew, hfound⟩ := (onlyNewNames_link schema stated).table?_of_mem_drop htable
  have hthere : (link schema stated).value.hasTable table.name = true := by
    rw [Schema.hasTable_eq_isSome, hfound, Option.isSome_some]
  obtain ⟨before, creator, after, hsplit, hname, hmissing⟩ := exists_creator hnew hthere
  -- the relations behind the first one find its two endpoints in the table
  have hkeyed : (joinedSchema schema stated).IsKeyedBy table.name
      ([creator.relation.source, creator.relation.target] ++
        newEnds [creator.relation.source, creator.relation.target]
          (after.filter (junctionName · = table.name))) := by
    have hcreated := (Schema.IsKeyedBy.of_hasTable_eq_false hmissing).linkJunction hname
    rw [joinedSchema, hsplit, linkEach_append, linkEach_cons]
    simpa using hcreated.linkJunctions after
  have htargets : keyTargets table.columns =
      [some creator.relation.source, some creator.relation.target] ++
        (newEnds [creator.relation.source, creator.relation.target]
          (after.filter (junctionName · = table.name))).map some := by
    have hkeys := hkeyed.keyTargets_keyedSchema
    rwa [show (keyedSchema schema stated).columnsOf table.name = table.columns from
      Schema.columnsOf_of_table? hfound, List.map_append] at hkeys
  refine ⟨before, creator, after, hsplit, hname, hmissing, htargets, ?_⟩
  rw [length_keys_eq_two_iff htargets, newEnds_eq_nil]
  simp [Relation.HasEnd]

/-- Two relations between three tables that are given the same junction table. -/
def sharedJunction : List NamedRelation :=
  [⟨⟨⟨"a", "id"⟩, ⟨"b", "id"⟩, .manyToMany, none, none⟩, some "links"⟩,
   ⟨⟨⟨"b", "id"⟩, ⟨"c", "id"⟩, .manyToMany, none, none⟩, some "links"⟩]

/-- **A table that linking makes need not serve one relation alone**: it gets a third key, to an
endpoint that the relation for which it was made does not have. -/
theorem three_keys_of_shared_junction :
    ∃ table ∈ (link {} sharedJunction).value.tables.drop ({} : Schema).tables.length,
      (table.columns.filter (·.primaryKey)).length = 3 ∧
      keyTargets table.columns = [some ⟨"a", "id"⟩, some ⟨"b", "id"⟩, some ⟨"c", "id"⟩] := by
  decide

/-- What the table refers to can be read off the two relations. -/
theorem primaryKey_of_created_table_of_shared_junction :
    ∃ table ∈ (link {} sharedJunction).value.tables.drop ({} : Schema).tables.length,
      ∃ before creator after, junctionRelations {} sharedJunction = before ++ creator :: after ∧
        junctionName creator = table.name ∧
        (linkEach linkJunction (resolvedSchema {}) before).value.hasTable table.name = false ∧
        keyTargets table.columns =
          [some creator.relation.source, some creator.relation.target] ++
            (newEnds [creator.relation.source, creator.relation.target]
              (after.filter (junctionName · = table.name))).map some ∧
        ((table.columns.filter (·.primaryKey)).length = 2 ↔
          ∀ other ∈ after, junctionName other = table.name →
            ∀ endpoint, other.relation.HasEnd endpoint → creator.relation.HasEnd endpoint) := by
  obtain ⟨table, htable⟩ : ∃ table,
      table ∈ (link {} sharedJunction).value.tables.drop ({} : Schema).tables.length :=
    List.exists_mem_of_ne_nil _ (by decide)
  exact ⟨table, htable, primaryKey_of_created_table {} sharedJunction htable⟩

end Linking

end Dbml
