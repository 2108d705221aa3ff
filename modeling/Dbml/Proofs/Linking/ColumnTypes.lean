import Dbml.Proofs.Linking.Columns
import Dbml.Proofs.Linking.Frame

/-!
# The types of the columns that are added

A column that is added for a relation has the type of the column that it refers to, as far as this
one is there when the step is made that adds the other.  Later steps may still add it, and do not go
back.  So linking is taken apart here into its steps, one for each relation of the two passes
(`steps`), and `type_of_added_column` speaks of the schema between two of them.

* `Schema.Enlarges`: a step keeps the columns with their types in their places, and all that it adds
  has some property.  What it adds is typed by the schema that it is made in (`enlarges_apply`).
* `columnAt?_afterSteps`, `columnType?_afterSteps`: what is there stays, to the end.
* `exists_step_of_columnAt?`: what is there in the end, but not from the outset, comes with a step.
-/

namespace Dbml

variable {schema : Schema} {named : NamedRelation} {relation : Relation} {endpoint : Endpoint}

/-! ### Steps -/

namespace Linking

/-- A step of linking: a relation gets its junction table, or its source gets a foreign key. -/
inductive Step where
  | junction (named : NamedRelation)
  | key (relation : Relation)

/-- The schema that a step leaves. -/
def Step.apply (schema : Schema) : Step → Schema
  | .junction named => (linkJunction schema named).value
  | .key relation => (linkForeignKey schema relation).value

/-- The schema behind some steps. -/
def afterSteps (schema : Schema) (steps : List Step) : Schema :=
  steps.foldl Step.apply schema

/-- The steps of linking in their order. -/
def steps (schema : Schema) (stated : List NamedRelation) : List Step :=
  (junctionRelations schema stated).map .junction ++ (keyRelations schema stated).map .key

theorem linkEach_eq_foldl {α : Type} (step : Schema → α → Traced Schema) (schema : Schema)
    (xs : List α) :
    (linkEach step schema xs).value =
      xs.foldl (fun current x => (step current x).value) schema := by
  induction xs generalizing schema with
  | nil => rfl
  | cons x rest ih => exact ih (step schema x).value

theorem keyedSchema_eq_afterSteps (schema : Schema) (stated : List NamedRelation) :
    keyedSchema schema stated = afterSteps (resolvedSchema schema) (steps schema stated) := by
  rw [keyedSchema, joinedSchema, linkEach_eq_foldl, linkEach_eq_foldl, afterSteps, steps,
    List.foldl_append, List.foldl_map, List.foldl_map]
  rfl

end Linking

open Linking

/-! ### Places -/

/-- The column in a place of the table in a place. -/
def Schema.columnAt? (schema : Schema) (i j : Nat) : Option Column :=
  schema.tables[i]?.bind (·.columns[j]?)

/-- The column keeps its name, its type and what it refers to. -/
structure Column.Persists (before after : Column) : Prop where
  name : after.name = before.name
  type : after.type = before.type
  reference : ∀ r ∈ before.reference, after.reference = some r

theorem Column.Persists.refl (column : Column) : column.Persists column :=
  ⟨rfl, rfl, fun _ h => h⟩

theorem Column.Persists.trans {first second third : Column} (h : first.Persists second)
    (hnext : second.Persists third) : first.Persists third :=
  ⟨hnext.name.trans h.name, hnext.type.trans h.type,
    fun r hr => hnext.reference r (h.reference r hr)⟩

/-- The table keeps its name and its columns, and those that are added have the property. -/
structure Table.Enlarges (Q : Column → Prop) (before after : Table) : Prop where
  name : after.name = before.name
  columns : Extends Column.Persists Q before.columns after.columns

/-- The tables keep their places and their columns, and all columns that are added have the
property. -/
def Schema.Enlarges (Q : Column → Prop) (before after : Schema) : Prop :=
  Extends (Table.Enlarges Q) (fun added => ∀ column ∈ added.columns, Q column)
    before.tables after.tables

namespace Schema.Enlarges

variable {Q : Column → Prop} {before after : Schema} {i j : Nat} {column : Column}

theorem columnAt?_of_some (h : before.Enlarges Q after)
    (hcolumn : before.columnAt? i j = some column) :
    ∃ kept, after.columnAt? i j = some kept ∧ column.Persists kept := by
  obtain ⟨table, htable, hat⟩ := Option.bind_eq_some_iff.mp hcolumn
  obtain ⟨enlarged, henlarged, hgrown⟩ := h.getElem? htable
  obtain ⟨kept, hkept, hpersists⟩ := hgrown.columns.getElem? hat
  exact ⟨kept, Option.bind_eq_some_iff.mpr ⟨enlarged, henlarged, hkept⟩, hpersists⟩

theorem columnAt?_of_none (h : before.Enlarges Q after) (hnone : before.columnAt? i j = none)
    (hcolumn : after.columnAt? i j = some column) : Q column := by
  obtain ⟨table, htable, hat⟩ := Option.bind_eq_some_iff.mp hcolumn
  rcases h.getElem?_cases htable with ⟨first, hfirst, hgrown⟩ | ⟨-, hadded⟩
  · rcases hgrown.columns.getElem?_cases hat with ⟨old, hold, -⟩ | ⟨-, hadded⟩
    · have hsome : before.columnAt? i j = some old :=
        Option.bind_eq_some_iff.mpr ⟨first, hfirst, hold⟩
      rw [hnone] at hsome
      contradiction
    · exact hadded
  · exact hadded column (List.mem_of_getElem? hat)

/-- A column that can be looked up keeps its type. -/
theorem columnType? {type : String} (h : before.Enlarges Q after)
    (htype : before.columnType? endpoint = some type) : after.columnType? endpoint = some type := by
  obtain ⟨table, htable, hcolumns⟩ := Option.bind_eq_some_iff.mp htype
  obtain ⟨column, hcolumn, hsome⟩ := Option.bind_eq_some_iff.mp hcolumns
  cases hsome
  obtain ⟨enlarged, henlarged, hgrown⟩ :=
    h.find?_eq_some (q := (·.name = endpoint.table)) (fun x y hxy => by simp [hxy.name]) htable
  obtain ⟨kept, hkept, hpersists⟩ :=
    hgrown.columns.find?_eq_some (q := (·.name = endpoint.column))
      (fun x y hxy => by simp [hxy.name])
      hcolumn
  exact Option.bind_eq_some_iff.mpr ⟨enlarged, henlarged,
    Option.bind_eq_some_iff.mpr ⟨kept, hkept, congrArg some hpersists.type⟩⟩

theorem withTable (h : before.Enlarges Q after) (name : String) :
    before.Enlarges Q (after.withTable name) := by
  unfold Schema.withTable
  split
  · exact h
  · exact h.append (List.forall_mem_singleton.mpr (List.forall_mem_nil _))

theorem updateTable {name : String} {f : Table → Table} (h : before.Enlarges Q after)
    (hname : ∀ table, (f table).name = table.name)
    (hcolumns : ∀ (columns : List Column) (table : Table),
      Extends Column.Persists Q columns table.columns →
      Extends Column.Persists Q columns (f table).columns) :
    before.Enlarges Q (after.updateTable name f) := by
  refine Extends.updateFirst h ?_ ?_
  · intro first table _ hgrown
    exact ⟨(hname table).trans hgrown.name, hcolumns _ table hgrown.columns⟩
  · intro table _ hadded
    -- a table that was added has grown from one without columns
    cases hcolumns [] table (.nil hadded) with
    | nil h => exact h

end Schema.Enlarges

/-! ### What a step adds -/

/-- The column refers to another and has its type, as the schema has it, or `int` if it has none. -/
def Column.IsTyped (schema : Schema) (column : Column) : Prop :=
  ∃ r, column.reference = some r ∧ column.type = keyType schema r.target

theorem isTyped_junctionColumn (schema : Schema) (relation : Relation) (endpoint : Endpoint) :
    (junctionColumn schema relation endpoint).IsTyped schema :=
  ⟨_, rfl, rfl⟩

theorem isTyped_foreignKey (schema : Schema) (relation : Relation) :
    (foreignKey schema relation).IsTyped schema :=
  ⟨_, rfl, rfl⟩

theorem persists_promote (relation : Relation) (column : Column) :
    column.Persists (promote relation column) := by
  unfold promote
  split
  · exact ⟨rfl, rfl, fun _ h => h⟩
  · exact .refl column

theorem persists_attach (relation : Relation) (column : Column) :
    column.Persists (attach relation column) := by
  unfold attach
  split
  · exact .refl column
  · rename_i hnone
    refine ⟨rfl, rfl, fun r hr => ?_⟩
    rw [hnone] at hr
    contradiction

theorem Column.IsTyped.persists {before after : Column} (h : before.IsTyped schema)
    (hkept : before.Persists after) : after.IsTyped schema := by
  obtain ⟨r, hr, htype⟩ := h
  exact ⟨r, hkept.reference r hr, hkept.type.trans htype⟩

namespace Linking

theorem enlarges_self (Q : Column → Prop) (schema : Schema) : schema.Enlarges Q schema := by
  have hcolumns : ∀ table : Table, table.Enlarges Q table := fun table =>
    ⟨rfl, Extends.self Column.Persists.refl table.columns⟩
  exact Extends.self hcolumns schema.tables

theorem enlarges_linkJunction (schema : Schema) (named : NamedRelation) :
    schema.Enlarges (·.IsTyped schema) (linkJunction schema named).value := by
  rw [linkJunction_value]
  refine ((enlarges_self _ schema).withTable _).updateTable (joinTable_name _ _) ?_
  intro columns table hcolumns
  refine (hcolumns.map ?_ ?_).append ?_
  · intro before after hkept
    exact hkept.trans (persists_promote named.relation after)
  · intro column htyped
    exact htyped.persists (persists_promote named.relation column)
  · intro column hmissing
    obtain ⟨endpoint, -, rfl⟩ := List.mem_map.mp hmissing
    exact isTyped_junctionColumn schema named.relation endpoint

theorem enlarges_linkForeignKey (schema : Schema) (relation : Relation) :
    schema.Enlarges (·.IsTyped schema) (linkForeignKey schema relation).value := by
  rw [linkForeignKey_value]
  refine (enlarges_self _ schema).updateTable (keyTable_name _ _) ?_
  intro columns table hcolumns
  unfold keyTable
  split
  · refine hcolumns.updateFirst ?_ ?_
    · intro before after _ hkept
      exact hkept.trans (persists_attach relation after)
    · intro column _ htyped
      exact htyped.persists (persists_attach relation column)
  · exact hcolumns.append (List.forall_mem_singleton.mpr (isTyped_foreignKey schema relation))

theorem enlarges_apply (schema : Schema) (step : Step) :
    schema.Enlarges (·.IsTyped schema) (step.apply schema) := by
  cases step with
  | junction named => exact enlarges_linkJunction schema named
  | key relation => exact enlarges_linkForeignKey schema relation

/-! ### What steps keep -/

variable {i j : Nat} {column : Column}

theorem columnAt?_afterSteps (h : schema.columnAt? i j = some column) (steps : List Step) :
    ∃ kept, (afterSteps schema steps).columnAt? i j = some kept ∧ column.Persists kept := by
  induction steps generalizing schema column with
  | nil => exact ⟨column, h, .refl column⟩
  | cons step rest ih =>
      obtain ⟨next, hnext, hpersists⟩ := (enlarges_apply schema step).columnAt?_of_some h
      obtain ⟨kept, hkept, hrest⟩ := ih hnext
      exact ⟨kept, hkept, hpersists.trans hrest⟩

theorem columnType?_afterSteps {type : String} (h : schema.columnType? endpoint = some type)
    (steps : List Step) :
    (afterSteps schema steps).columnType? endpoint = some type := by
  induction steps generalizing schema with
  | nil => exact h
  | cons step rest ih => exact ih ((enlarges_apply schema step).columnType? h)

/-- A column that is not there from the outset comes with a step, and keeps the type that it has
then. -/
theorem exists_step_of_columnAt? {steps : List Step} (hnone : schema.columnAt? i j = none)
    (hcolumn : (afterSteps schema steps).columnAt? i j = some column) :
    ∃ before step after, steps = before ++ step :: after ∧
      (afterSteps schema before).columnAt? i j = none ∧
      ((afterSteps schema (before ++ [step])).columnAt? i j).isSome = true ∧
      column.IsTyped (afterSteps schema before) := by
  induction steps generalizing schema with
  | nil =>
      have hsame : schema.columnAt? i j = some column := hcolumn
      rw [hnone] at hsame
      contradiction
  | cons step rest ih =>
      cases hnext : (step.apply schema).columnAt? i j with
      | none =>
          obtain ⟨before, last, after, hsplit, hbefore, hadded, htyped⟩ := ih hnext hcolumn
          exact ⟨step :: before, last, after, by rw [hsplit, List.cons_append], hbefore, hadded,
            htyped⟩
      | some added =>
          have htyped : added.IsTyped schema :=
            (enlarges_apply schema step).columnAt?_of_none hnone hnext
          obtain ⟨kept, hkept, hpersists⟩ := columnAt?_afterSteps hnext rest
          have hsame : kept = column := Option.some.inj (hkept.symm.trans hcolumn)
          refine ⟨[], step, rest, rfl, hnone, ?_, hsame ▸ htyped.persists hpersists⟩
          exact Option.isSome_of_eq_some hnext

/-! ### All together -/

/-- Three tables, of which the last one alone has the column to which the others lead. -/
def chainExample : Schema where
  tables :=
    [{ name := "a", columns := [{ name := "id", type := "int" }] },
     { name := "b", columns := [{ name := "id", type := "int" }] },
     { name := "c", columns := [{ name := "id", type := "uuid" }] }]

/-- Two relations, the first to the column that is added for the second. -/
def chainRelations : List NamedRelation :=
  [⟨⟨⟨"a", "x"⟩, ⟨"b", "y"⟩, .manyToOne, none, none⟩, none⟩,
   ⟨⟨⟨"b", "y"⟩, ⟨"c", "id"⟩, .manyToOne, none, none⟩, none⟩]

/-- **A column does not always get the type of the one that it refers to**, even if there are no two
names alike: that one may come later. -/
theorem type_ne_of_referenced_column_added_later :
    (chainExample.tables.map (·.name)).Nodup ∧ chainExample.DistinctColumns ∧
      chainExample.columnAt? 0 1 = none ∧
      (link chainExample chainRelations).value.columnAt? 0 1 =
        some
          { name := "x", type := "int"
            reference := some ⟨"b", "y", some .manyToOne, none, none⟩ } ∧
      (link chainExample chainRelations).value.columnType? ⟨"b", "y"⟩ = some "uuid" := by
  decide

theorem columnAt?_resolvedSchema_of_none (h : schema.columnAt? i j = none) :
    (resolvedSchema schema).columnAt? i j = none := by
  unfold Schema.columnAt? resolvedSchema resolveTables at *
  rw [List.getElem?_map]
  cases htable : schema.tables[i]? with
  | none => rfl
  | some table =>
      rw [htable, Option.bind_some] at h
      rw [Option.map_some, Option.bind_some, List.getElem?_map, h, Option.map_none]

/-- **The type of a column that linking adds** is that of the column to which it refers, if this one
is there before the step that adds it.  That type is the one it has in the end, too.  If it is not
there, the type is `int`. -/
theorem type_of_added_column (schema : Schema) (stated : List NamedRelation)
    (hnew : schema.columnAt? i j = none)
    (hcolumn : (link schema stated).value.columnAt? i j = some column) :
    ∃ before step after r, steps schema stated = before ++ step :: after ∧
      (afterSteps (resolvedSchema schema) before).columnAt? i j = none ∧
      ((afterSteps (resolvedSchema schema) (before ++ [step])).columnAt? i j).isSome = true ∧
      column.reference = some r ∧
      (∀ type, (afterSteps (resolvedSchema schema) before).columnType? r.target = some type →
        column.type = type ∧
          (link schema stated).value.columnType? r.target = some type) ∧
      ((afterSteps (resolvedSchema schema) before).columnType? r.target = none →
        column.type = "int") := by
  -- the last pass leaves the tables as they are
  have hkeyed : (afterSteps (resolvedSchema schema) (steps schema stated)).columnAt? i j =
      some column := by
    rw [← keyedSchema_eq_afterSteps]
    exact hcolumn
  obtain ⟨before, step, after, hsplit, hbefore, hadded, r, hr, htype⟩ :=
    exists_step_of_columnAt? (columnAt?_resolvedSchema_of_none hnew) hkeyed
  refine ⟨before, step, after, r, hsplit, hbefore, hadded, hr, fun type hfound =>
    ⟨?_, ?_⟩, fun hnone => ?_⟩
  · rw [htype, keyType, hfound, Option.getD_some]
  · have hend : (afterSteps (resolvedSchema schema) (steps schema stated)).columnType?
        r.target = some type := by
      rw [hsplit, afterSteps, List.foldl_append]
      exact columnType?_afterSteps hfound (step :: after)
    rw [← keyedSchema_eq_afterSteps] at hend
    exact hend
  · rw [htype, keyType, hnone, Option.getD_none]

/-- The second relation adds a column whose type can only be that of the column that is there. -/
theorem type_of_added_column_of_chain :
    chainExample.columnAt? 1 1 = none ∧
      ∃ column, (link chainExample chainRelations).value.columnAt? 1 1 = some column ∧
        (link chainExample chainRelations).value.columnType? ⟨"c", "id"⟩ = some column.type := by
  have hnew : chainExample.columnAt? 1 1 = none := by decide
  have hcolumn : (link chainExample chainRelations).value.columnAt? 1 1 =
      some
        { name := "y", type := "uuid"
          reference := some ⟨"c", "id", some .manyToOne, none, none⟩ } := by
    decide
  obtain ⟨before, -, -, r, -, -, -, hr, hthere, hmissing⟩ :=
    type_of_added_column chainExample chainRelations hnew hcolumn
  cases hr
  refine ⟨hnew, _, hcolumn, ?_⟩
  cases hfound : (afterSteps (resolvedSchema chainExample) before).columnType? ⟨"c", "id"⟩ with
  | none => exact absurd (hmissing hfound) (by decide)
  | some type =>
      obtain ⟨htype, hend⟩ := hthere type hfound
      rw [htype]
      exact hend

end Linking

end Dbml
