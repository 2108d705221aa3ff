import Dbml.Proofs.Linking.Passes

/-!
# Schemas that linking leaves as they are

A schema is linked when there is nothing left for any of the passes to do:

* the names of tables in it stand for themselves;
* no relation needs a junction table, and the source of each has its reference;
* no two relations join the same columns.

Linking such a schema only puts its relations into it (`link_of_isLinked`).
-/

namespace Dbml.Linking

/-- Linking has nothing to do for the relations. -/
structure IsLinked (schema : Schema) (relations : List Relation) : Prop where
  references : ∀ table ∈ schema.tables, ∀ column ∈ table.columns, ∀ r ∈ column.reference,
    resolveName schema.tables r.table = r.table
  source : ∀ relation ∈ relations,
    resolveName schema.tables relation.source.table = relation.source.table
  target : ∀ relation ∈ relations,
    resolveName schema.tables relation.target.table = relation.target.table
  noJunction : ∀ relation ∈ relations, relation.isManyToMany = false
  keys : ∀ relation ∈ relations, (schema.reference? relation.source).isSome
  distinct : relations.Pairwise fun a b => a.sameEndpoints b = false

variable {schema : Schema} {relation : Relation} {tables : List Table} {name : String}

/-! ### Names -/

theorem resolveName_of_any (h : tables.any (·.name = name) = true) :
    resolveName tables name = name := by
  rw [resolveName, if_pos h]

/-- A name that is nobody's alias stands for itself. -/
theorem resolveName_of_no_alias (h : ∀ table ∈ tables, table.aliasName ≠ some name) :
    resolveName tables name = name := by
  have hnone : tables.reverse.find? (·.aliasName = some name) = none := by
    simpa [List.find?_eq_none] using h
  unfold resolveName
  split
  · rfl
  · rw [hnone]

theorem resolveEndpoint_eq_self {endpoint : Endpoint}
    (h : resolveName tables endpoint.table = endpoint.table) :
    resolveEndpoint tables endpoint = endpoint := by
  rw [resolveEndpoint, h]

theorem resolveRelation_eq_self {named : NamedRelation}
    (hsource : resolveName tables named.relation.source.table = named.relation.source.table)
    (htarget : resolveName tables named.relation.target.table = named.relation.target.table) :
    resolveRelation tables named = named := by
  rw [resolveRelation, resolveEndpoint_eq_self hsource, resolveEndpoint_eq_self htarget]

theorem resolveColumn_eq_self {column : Column}
    (h : ∀ r ∈ column.reference, resolveName tables r.table = r.table) :
    resolveColumn tables column = column := by
  have hreference :
      (column.reference.map fun r => { r with table := resolveName tables r.table }) =
        column.reference := by
    cases hcase : column.reference with
    | none => rfl
    | some r => rw [Option.map_some, h r hcase]
  rw [resolveColumn, hreference]

theorem resolveTables_eq_self (h : ∀ table ∈ tables, ∀ column ∈ table.columns,
    ∀ r ∈ column.reference, resolveName tables r.table = r.table) :
    resolveTables tables = tables := by
  have htables : ∀ table ∈ tables,
      { table with columns := table.columns.map (resolveColumn tables) } = table := by
    intro table htable
    have hcolumns : table.columns.map (resolveColumn tables) = table.columns :=
      (List.map_congr_left fun column hcolumn =>
        resolveColumn_eq_self (h table htable column hcolumn)).trans (List.map_id _)
    rw [hcolumns]
  exact (List.map_congr_left htables).trans (List.map_id _)

/-! ### Foreign keys -/

theorem updateFirst_id {α : Type} (p : α → Bool) (l : List α) : updateFirst p id l = l := by
  induction l with
  | nil => rfl
  | cons x rest ih =>
      unfold updateFirst
      split
      · rfl
      · rw [ih]

/-- A relation whose source is a foreign key already adds nothing. -/
theorem linkForeignKey_eq_self (h : (schema.reference? relation.source).isSome) :
    (linkForeignKey schema relation).value = schema := by
  obtain ⟨r, hr⟩ := Option.isSome_iff_exists.mp h
  obtain ⟨table, column, htable, hcolumn, hreference⟩ := Schema.reference?_eq_some.mp hr
  -- both updates change nothing, each on the one element that it finds
  have hattach : table.updateColumn relation.source.column (attach relation) = table := by
    have hcongr : updateFirst (·.name = relation.source.column) (attach relation) table.columns =
        updateFirst (·.name = relation.source.column) id table.columns :=
      updateFirst_congr fun other hother => by
        cases hcolumn.symm.trans hother
        simp [attach, hreference]
    rw [Table.updateColumn, hcongr, updateFirst_id]
  have hupdate : schema.updateTable relation.source.table
      (·.updateColumn relation.source.column (attach relation)) =
        schema.updateTable relation.source.table id :=
    Schema.updateTable_congr fun other hother => by
      cases htable.symm.trans hother
      exact hattach
  unfold linkForeignKey
  simp only [htable, hcolumn]
  show schema.updateTable relation.source.table
    (·.updateColumn relation.source.column (attach relation)) = schema
  rw [hupdate, Schema.updateTable, updateFirst_id]

theorem linkForeignKeys_eq_self {relations : List Relation}
    (h : ∀ relation ∈ relations, (schema.reference? relation.source).isSome) :
    (linkEach linkForeignKey schema relations).value = schema :=
  linkEach_preserves (P := (· = schema)) rfl fun _ relation hrelation hschema => by
    subst hschema
    exact linkForeignKey_eq_self (h relation hrelation)

/-! ### Duplicates -/

/-- Of relations that join different columns all are kept. -/
theorem dropDuplicates_value {kept relations : List Relation}
    (h : (kept ++ relations).Pairwise fun a b => a.sameEndpoints b = false) :
    (dropDuplicates kept relations).value = kept ++ relations := by
  induction relations generalizing kept with
  | nil => simp [dropDuplicates]
  | cons relation rest ih =>
      have hnew : kept.any (·.sameEndpoints relation) = false := by
        rw [List.any_eq_false]
        intro other hother
        have := (List.pairwise_append.mp h).2.2 other hother relation List.mem_cons_self
        simp [this]
      rw [List.append_cons] at h
      rw [dropDuplicates, hnew]
      exact (ih h).trans (List.append_cons kept relation rest).symm

theorem keptRelations_eq_self {relations : List Relation}
    (h : relations.Pairwise fun a b => a.sameEndpoints b = false) :
    keptRelations relations = relations :=
  dropDuplicates_value h

/-! ### All together -/

/-- **Linking leaves a linked schema as it is**, but for the relations, which become part of it. -/
theorem link_of_isLinked {stated : List NamedRelation}
    (h : IsLinked schema (stated.map (·.relation))) :
    (link schema stated).value = { schema with relations := stated.map (·.relation) } := by
  have hrelation : ∀ named ∈ stated, named.relation ∈ stated.map (·.relation) := fun named hnamed =>
    List.mem_map.mpr ⟨named, hnamed, rfl⟩
  have hresolved : resolvedRelations schema stated = stated :=
    (List.map_congr_left fun named hnamed =>
      resolveRelation_eq_self (h.source _ (hrelation named hnamed))
        (h.target _ (hrelation named hnamed))).trans (List.map_id _)
  have hschema : resolvedSchema schema = schema := by
    rw [resolvedSchema, resolveTables_eq_self h.references]
  have hjunctions : junctionRelations schema stated = [] := by
    rw [junctionRelations, hresolved, List.filter_eq_nil_iff]
    intro named hnamed
    simp [h.noJunction _ (hrelation named hnamed)]
  have hkeys : ∀ relation ∈ keyRelations schema stated,
      (schema.reference? relation.source).isSome := by
    intro relation hmem
    rw [keyRelations, hresolved] at hmem
    obtain ⟨named, hnamed, rfl⟩ := List.mem_map.mp hmem
    exact h.keys _ (hrelation named (List.mem_filter.mp hnamed).1)
  have hjoined : joinedSchema schema stated = schema := by
    rw [joinedSchema, hjunctions, hschema, linkEach_nil]
  rw [link_value, keyedSchema, hjoined, linkForeignKeys_eq_self hkeys, hresolved,
    keptRelations_eq_self h.distinct]

end Dbml.Linking
