import Mathlib.Data.List.Basic
import Dbml.Proofs.Linking.Junctions

/-!
# The columns of a table during linking

Every step of linking changes one table, the first of its name, and all that later steps see of it
are its columns (`Schema.columnsOf`).  This file says for a step of either pass what becomes of
them:

* `columnsOf_linkJunction`: in the junction table the old columns are promoted and those for missing
  endpoints come behind them.  So afterwards a column refers to an endpoint just if one did before
  or the relation has it at an end (`refersFrom_linkJunction`, for a whole pass
  `refersFrom_linkJunctions`);
* `columnsOf_linkForeignKey`: at the source the reference is attached or a column comes behind the
  others;
* `column?_linkJunction`, `column?_linkForeignKey`: a column that was found is found still.
-/

namespace Dbml

/-- The column is at an end of the relation. -/
def Relation.HasEnd (relation : Relation) (endpoint : Endpoint) : Prop :=
  endpoint = relation.source ∨ endpoint = relation.target

instance (relation : Relation) (endpoint : Endpoint) : Decidable (relation.HasEnd endpoint) :=
  inferInstanceAs (Decidable (_ ∨ _))

/-- The column that a reference is to. -/
def Reference.target (r : Reference) : Endpoint :=
  ⟨r.table, r.column⟩

theorem Endpoint.eq_iff {endpoint other : Endpoint} :
    endpoint = other ↔ endpoint.table = other.table ∧ endpoint.column = other.column := by
  cases endpoint
  cases other
  rw [Endpoint.mk.injEq]

theorem Column.refersTo_iff {column : Column} {endpoint : Endpoint} :
    column.refersTo endpoint = true ↔ ∃ r, column.reference = some r ∧ r.target = endpoint := by
  cases endpoint
  simp [refersTo, Option.any_eq_true, Reference.target]

theorem Column.isSome_of_refersTo {column : Column} {endpoint : Endpoint}
    (h : column.refersTo endpoint = true) : column.reference.isSome = true := by
  obtain ⟨r, hr, -⟩ := refersTo_iff.mp h
  rw [hr, Option.isSome_some]

namespace Schema

/-- The columns of the first table of the name, none if there is no such table. -/
def columnsOf (schema : Schema) (name : String) : List Column :=
  ((schema.table? name).getD { name }).columns

/-- A column of the first table of the name refers to the endpoint. -/
def RefersFrom (schema : Schema) (name : String) (endpoint : Endpoint) : Prop :=
  ∃ column ∈ schema.columnsOf name, column.refersTo endpoint = true

instance (schema : Schema) (name : String) (endpoint : Endpoint) :
    Decidable (schema.RefersFrom name endpoint) :=
  inferInstanceAs (Decidable (∃ column ∈ schema.columnsOf name, column.refersTo endpoint = true))

/-- The columns of each table have distinct names. -/
def DistinctColumns (schema : Schema) : Prop :=
  ∀ table ∈ schema.tables, (table.columns.map (·.name)).Nodup

instance (schema : Schema) : Decidable schema.DistinctColumns :=
  inferInstanceAs (Decidable (∀ table ∈ schema.tables, (table.columns.map (·.name)).Nodup))

theorem columnsOf_of_table? {schema : Schema} {name : String} {table : Table}
    (h : schema.table? name = some table) : schema.columnsOf name = table.columns := by
  rw [columnsOf, h, Option.getD_some]

theorem columnsOf_of_none {schema : Schema} {name : String} (h : schema.table? name = none) :
    schema.columnsOf name = [] := by
  rw [columnsOf, h, Option.getD_none]

theorem column?_eq_find? (schema : Schema) (endpoint : Endpoint) :
    schema.column? endpoint =
      (schema.columnsOf endpoint.table).find? (·.name = endpoint.column) := by
  cases htable : schema.table? endpoint.table with
  | some table =>
      rw [column?, htable, columnsOf_of_table? htable]
      rfl
  | none =>
      rw [column?, htable, columnsOf_of_none htable]
      rfl

end Schema

namespace Linking

variable {schema : Schema} {named : NamedRelation} {relation : Relation} {table : Table}
  {column : Column} {endpoint other : Endpoint} {name : String}

/-! ### Columns of a junction table -/

theorem refersTo_junctionColumn :
    (junctionColumn schema relation endpoint).refersTo other = true ↔ endpoint = other := by
  simp [Column.refersTo_iff, junctionColumn, Reference.target]

theorem mem_missingColumns_iff : column ∈ missingColumns schema relation table ↔
    ∃ endpoint, relation.HasEnd endpoint ∧ table.columns.any (·.refersTo endpoint) = false ∧
      junctionColumn schema relation endpoint = column := by
  simp only [missingColumns, List.mem_map, List.mem_filter, List.mem_cons, List.not_mem_nil,
    or_false, Bool.not_eq_true', Relation.HasEnd, and_assoc]

theorem columnsOf_linkJunction (schema : Schema) (named : NamedRelation) (name : String) :
    (linkJunction schema named).value.columnsOf name =
      if name = junctionName named then
        (schema.columnsOf name).map (promote named.relation) ++
          missingColumns schema named.relation ((schema.table? name).getD { name })
      else schema.columnsOf name := by
  rw [Schema.columnsOf, table?_linkJunction]
  split
  · rfl
  · rfl

theorem any_refersTo_eq_false :
    ((schema.table? name).getD { name }).columns.any (·.refersTo endpoint) = false ↔
      ¬ schema.RefersFrom name endpoint := by
  rw [← Bool.not_eq_true, List.any_eq_true]
  rfl

theorem refersFrom_linkJunction (schema : Schema) (named : NamedRelation) (name : String)
    (endpoint : Endpoint) :
    (linkJunction schema named).value.RefersFrom name endpoint ↔
      schema.RefersFrom name endpoint ∨
        junctionName named = name ∧ named.relation.HasEnd endpoint := by
  unfold Schema.RefersFrom
  rw [columnsOf_linkJunction]
  by_cases hname : name = junctionName named
  · rw [if_pos hname]
    constructor
    · rintro ⟨column, hcolumn, hrefers⟩
      rcases List.mem_append.mp hcolumn with hold | hnew
      · obtain ⟨before, hbefore, rfl⟩ := List.mem_map.mp hold
        rw [promote_refersTo] at hrefers
        exact .inl ⟨before, hbefore, hrefers⟩
      · obtain ⟨added, hend, -, rfl⟩ := mem_missingColumns_iff.mp hnew
        exact .inr ⟨hname.symm, refersTo_junctionColumn.mp hrefers ▸ hend⟩
    · intro h
      by_cases hold : schema.RefersFrom name endpoint
      · obtain ⟨column, hcolumn, hrefers⟩ := hold
        exact ⟨promote named.relation column, List.mem_append_left _ (List.mem_map_of_mem hcolumn),
          by rwa [promote_refersTo]⟩
      · obtain ⟨-, hend⟩ := h.resolve_left hold
        have hmissing : junctionColumn schema named.relation endpoint ∈
            missingColumns schema named.relation ((schema.table? name).getD { name }) :=
          mem_missingColumns_iff.mpr ⟨endpoint, hend, any_refersTo_eq_false.mpr hold, rfl⟩
        exact ⟨_, List.mem_append_right _ hmissing, refersTo_junctionColumn.mpr rfl⟩
  · rw [if_neg hname]
    simp [Ne.symm hname]

/-- After all relations a table refers to what it referred to and to the ends of those whose
junction it is. -/
theorem refersFrom_linkJunctions (schema : Schema) (relations : List NamedRelation) (name : String)
    (endpoint : Endpoint) :
    (linkEach linkJunction schema relations).value.RefersFrom name endpoint ↔
      schema.RefersFrom name endpoint ∨
        ∃ named ∈ relations, junctionName named = name ∧ named.relation.HasEnd endpoint := by
  induction relations generalizing schema with
  | nil => simp
  | cons first rest ih =>
      rw [linkEach_cons, ih, refersFrom_linkJunction, List.exists_mem_cons_iff, or_assoc]

/-! ### Columns at the source of a relation -/

theorem columnsOf_linkForeignKey (schema : Schema) (relation : Relation) (name : String) :
    (linkForeignKey schema relation).value.columnsOf name =
      if name = relation.source.table ∧ schema.hasTable name = true then
        (keyTable schema relation ((schema.table? name).getD { name })).columns
      else schema.columnsOf name := by
  rw [Schema.columnsOf, table?_linkForeignKey, Schema.hasTable_eq_isSome]
  cases htable : schema.table? name with
  | some table =>
      by_cases hname : name = relation.source.table
      · simp [hname]
      · simp [hname, Schema.columnsOf_of_table? htable]
  | none => simp [Schema.columnsOf_of_none htable]

/-! ### Columns that are found -/

@[simp] theorem promote_name (relation : Relation) (column : Column) :
    (promote relation column).name = column.name := by
  unfold promote
  split <;> rfl

theorem map_name_promote (relation : Relation) (columns : List Column) :
    (columns.map (promote relation)).map (·.name) = columns.map (·.name) := by
  rw [List.map_map]
  exact List.map_congr_left fun column _ => promote_name relation column

theorem find?_map_promote (relation : Relation) (columns : List Column) (name : String) :
    (columns.map (promote relation)).find? (·.name = name) =
      (columns.find? (·.name = name)).map (promote relation) := by
  have hname : ((fun column : Column => decide (column.name = name)) ∘ promote relation) =
      fun column => decide (column.name = name) := by
    funext column
    rw [Function.comp_apply, promote_name]
  rw [List.find?_map, hname]

theorem column?_linkJunction (h : schema.column? endpoint = some column) (named : NamedRelation) :
    (linkJunction schema named).value.column? endpoint =
      some (if endpoint.table = junctionName named then promote named.relation column
        else column) := by
  rw [Schema.column?_eq_find?] at h ⊢
  rw [columnsOf_linkJunction]
  split
  · rw [List.find?_append, find?_map_promote, h, Option.map_some, Option.some_or]
  · exact h

theorem column?_linkForeignKey (h : schema.column? endpoint = some column) (relation : Relation) :
    (linkForeignKey schema relation).value.column? endpoint =
      some (if endpoint = relation.source then attach relation column else column) := by
  obtain ⟨table, htable, hcolumn⟩ := Schema.column?_eq_some.mp h
  rw [Schema.column?, table?_linkForeignKey, htable]
  by_cases hsource : endpoint.table = relation.source.table
  · rw [if_pos hsource, Option.map_some, Option.bind_some]
    by_cases hsame : endpoint.column = relation.source.column
    · have hendpoint : endpoint = relation.source := Endpoint.eq_iff.mpr ⟨hsource, hsame⟩
      subst hendpoint
      rw [if_pos rfl, keyTable, hcolumn]
      show (table.updateColumn _ _).column? _ = _
      rw [Table.column?_updateColumn_self (attach_name relation), hcolumn, Option.map_some]
    · have hendpoint : endpoint ≠ relation.source := by
        rintro rfl
        exact hsame rfl
      rw [if_neg hendpoint, column?_keyTable_of_ne hsame, hcolumn]
  · have hendpoint : endpoint ≠ relation.source := by
      rintro rfl
      exact hsource rfl
    rw [if_neg hsource, if_neg hendpoint, Option.bind_some, hcolumn]

end Linking

end Dbml
