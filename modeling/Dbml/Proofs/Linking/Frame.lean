import Mathlib.Data.List.Nodup
import Dbml.Proofs.Linking.Junctions

/-!
# What linking leaves as it is

Linking adds tables and columns at the end and changes little of what it finds.  `Extends` says that
of a list, `Table.Grows` and `Schema.Grows` of a table and a schema, for any relation `R` between a
column and what became of it.

* `Schema.Grows.withTable`, `Schema.Grows.updateTable`: a schema goes on growing as long as every
  update lets the columns of its table do so.
* `ColumnKept`: what may become of a column.  The first two passes do even less: what a column
  refers to is settled before the junction tables are made (`ColumnJoined`), which is why only a
  column that refers to an endpoint from the outset can get into a primary key.
* `grows_link`: a schema grows with `ColumnKept` when it is linked.
-/

namespace Dbml

/-! ### Lists that grow at the end -/

/-- The second list begins with elements that stand in the relation `R` to those of the first one,
in the same order, and all its other elements satisfy `Q`. -/
inductive Extends {α β : Type} (R : α → β → Prop) (Q : β → Prop) : List α → List β → Prop
  | nil {added : List β} (h : ∀ y ∈ added, Q y) : Extends R Q [] added
  | cons {x : α} {y : β} {xs : List α} {ys : List β} (h : R x y) (hrest : Extends R Q xs ys) :
      Extends R Q (x :: xs) (y :: ys)

namespace Extends

variable {α β : Type} {R S : α → β → Prop} {Q : β → Prop} {xs : List α} {ys : List β}

theorem of_map {f : α → β} (h : ∀ x, R x (f x)) (xs : List α) : Extends R Q xs (xs.map f) := by
  induction xs with
  | nil => exact .nil (List.forall_mem_nil _)
  | cons x rest ih => exact .cons (h x) ih

theorem self {R : α → α → Prop} {Q : α → Prop} (h : ∀ x, R x x) (xs : List α) :
    Extends R Q xs xs := by
  induction xs with
  | nil => exact .nil (List.forall_mem_nil _)
  | cons x rest ih => exact .cons (h x) ih

theorem mono (h : Extends R Q xs ys) (hR : ∀ x y, R x y → S x y) : Extends S Q xs ys := by
  induction h with
  | nil h => exact .nil h
  | cons h _ ih => exact .cons (hR _ _ h) ih

/-- Less may be said of the elements that were added. -/
theorem weaken {Q' : β → Prop} (h : Extends R Q xs ys) (hQ : ∀ y, Q y → Q' y) :
    Extends R Q' xs ys := by
  induction h with
  | nil h => exact .nil fun y hy => hQ y (h y hy)
  | cons h _ ih => exact .cons h ih

theorem append {more : List β} (h : Extends R Q xs ys) (hmore : ∀ y ∈ more, Q y) :
    Extends R Q xs (ys ++ more) := by
  induction h with
  | nil h => exact .nil fun y hy => (List.mem_append.mp hy).elim (h y) (hmore y)
  | cons h _ ih => exact .cons h ih

theorem map {f : β → β} (h : Extends R Q xs ys) (hR : ∀ x y, R x y → R x (f y))
    (hQ : ∀ y, Q y → Q (f y)) : Extends R Q xs (ys.map f) := by
  induction h with
  | nil h => exact .nil (List.forall_mem_map.mpr fun y hy => hQ y (h y hy))
  | cons h _ ih => exact .cons (hR _ _ h) ih

/-- An update that relates the element it finds to the same element as before keeps the
extension. -/
theorem updateFirst {p : β → Bool} {f : β → β} (h : Extends R Q xs ys)
    (hR : ∀ x y, p y = true → R x y → R x (f y)) (hQ : ∀ y, p y = true → Q y → Q (f y)) :
    Extends R Q xs (updateFirst p f ys) := by
  induction h with
  | nil h => exact .nil (forall_mem_updateFirst h hQ)
  | cons h hrest ih =>
      unfold Dbml.updateFirst
      split
      · rename_i hp
        exact .cons (hR _ _ hp h) hrest
      · exact .cons h ih

/-- Each element of the first list has one related to it in the same place. -/
theorem getElem? (h : Extends R Q xs ys) {i : Nat} {x : α} (hx : xs[i]? = some x) :
    ∃ y, ys[i]? = some y ∧ R x y := by
  induction h generalizing i with
  | nil h => simp at hx
  | cons h _ ih =>
      cases i with
      | zero =>
          cases hx
          exact ⟨_, rfl, h⟩
      | succ i => exact ih hx

/-- What stands in a place was there before or has been added. -/
theorem getElem?_cases (h : Extends R Q xs ys) {i : Nat} {y : β} (hy : ys[i]? = some y) :
    (∃ x, xs[i]? = some x ∧ R x y) ∨ xs[i]? = none ∧ Q y := by
  induction h generalizing i with
  | nil hadded => exact .inr ⟨rfl, hadded y (List.mem_of_getElem? hy)⟩
  | cons hfirst _ ih =>
      cases i with
      | zero =>
          cases hy
          exact .inl ⟨_, rfl, hfirst⟩
      | succ i => exact ih hy

/-- The first element with a property stays so if the property depends on what is kept. -/
theorem find?_eq_some {p : α → Bool} {q : β → Bool} (h : Extends R Q xs ys)
    (hsame : ∀ x y, R x y → p x = q y) {x : α} (hx : xs.find? p = some x) :
    ∃ y, ys.find? q = some y ∧ R x y := by
  induction h with
  | nil => contradiction
  | cons hfirst _ ih =>
      rename_i first kept _ _ _
      cases hp : p first with
      | true =>
          rw [List.find?_cons_of_pos hp] at hx
          cases hx
          exact ⟨kept, List.find?_cons_of_pos (hsame _ _ hfirst ▸ hp), hfirst⟩
      | false =>
          have hq : q kept = false := hsame _ _ hfirst ▸ hp
          rw [List.find?_cons_of_neg (by simp [hp])] at hx
          rw [List.find?_cons_of_neg (by simp [hq])]
          exact ih hx

end Extends

/-! ### Tables and schemas that grow -/

/-- The table keeps its name and alias, its columns stand in the relation `R` to what became of
them, and columns are added at the end, each of them with a reference. -/
structure Table.Grows (R : Table → Column → Column → Prop) (before after : Table) : Prop where
  name : after.name = before.name
  aliasName : after.aliasName = before.aliasName
  columns : Extends (R before) (·.reference.isSome = true) before.columns after.columns

/-- The schema keeps its settings, its tables grow, and tables of other names are added at the end,
in which all columns have a reference. -/
structure Schema.Grows (R : Table → Column → Column → Prop) (before after : Schema) : Prop where
  metadata : after.metadata = before.metadata
  tables : Extends (Table.Grows R)
    (fun added => (∀ table ∈ before.tables, table.name ≠ added.name) ∧
      ∀ column ∈ added.columns, column.reference.isSome = true)
    before.tables after.tables

namespace Schema.Grows

variable {R S : Table → Column → Column → Prop} {before after : Schema} {name : String}

theorem mono (h : before.Grows R after) (hR : ∀ table x y, R table x y → S table x y) :
    before.Grows S after :=
  ⟨h.metadata, h.tables.mono fun table _ ht => ⟨ht.name, ht.aliasName, ht.columns.mono (hR table)⟩⟩

/-- The names of the first schema are there still. -/
theorem hasTable (h : before.Grows R after) {table : Table} (htable : table ∈ before.tables) :
    after.hasTable table.name = true := by
  obtain ⟨i, hi⟩ := List.mem_iff_getElem?.mp htable
  obtain ⟨grown, hgrown, hgrows⟩ := h.tables.getElem? hi
  exact List.any_eq_true.mpr ⟨grown, List.mem_of_getElem? hgrown, by simp [hgrows.name]⟩

theorem withTable (h : before.Grows R after) : before.Grows R (after.withTable name) := by
  cases hname : after.hasTable name with
  | true => simpa only [Schema.withTable, hname, if_true] using h
  | false =>
      have hfresh : ∀ table ∈ before.tables, table.name ≠ name := by
        rintro table htable rfl
        rw [h.hasTable htable] at hname
        contradiction
      rw [Schema.withTable, hname, if_neg Bool.false_ne_true]
      exact ⟨h.metadata, h.tables.append (by simpa [List.forall_mem_nil] using hfresh)⟩

/-- A schema goes on growing with an update of a table that keeps name and alias and lets the
columns grow, whatever those columns have been in the beginning. -/
theorem updateTable {f : Table → Table} (h : before.Grows R after)
    (hname : ∀ table, (f table).name = table.name)
    (halias : ∀ table, (f table).aliasName = table.aliasName)
    (hcolumns : ∀ first table : Table, first.name = name →
      Extends (R first) (·.reference.isSome = true) first.columns table.columns →
      Extends (R first) (·.reference.isSome = true) first.columns (f table).columns) :
    before.Grows R (after.updateTable name f) := by
  refine ⟨h.metadata, h.tables.updateFirst ?_ ?_⟩
  · intro first table hfound hgrows
    have hfirst : first.name = name := by
      rw [← hgrows.name]
      exact of_decide_eq_true hfound
    exact ⟨(hname table).trans hgrows.name, (halias table).trans hgrows.aliasName,
      hcolumns first table hfirst hgrows.columns⟩
  · rintro table - ⟨hfresh, hkeys⟩
    refine ⟨fun first hfirst => hname table ▸ hfresh first hfirst, ?_⟩
    -- a table that was added has grown from one without columns
    have hgrown := hcolumns { name } table rfl (.nil hkeys)
    cases hgrown with
    | nil h => exact h

end Schema.Grows

namespace Linking

variable {schema current : Schema} {stated : List NamedRelation} {named : NamedRelation}
  {relation : Relation}

/-! ### What becomes of a column -/

/-- What linking may do to a column of a table.  It sets the mark of the primary key if the column
refers to an endpoint of a relation for which the table is the junction; it resolves the name in a
reference; and it gives a column without a reference that of a relation from this column. -/
structure ColumnKept (schema : Schema) (stated : List NamedRelation) (table : Table)
    (before after : Column) : Prop where
  rest : after =
    { before with primaryKey := after.primaryKey, reference := after.reference }
  primaryKey : after.primaryKey ≠ before.primaryKey →
    after.primaryKey = true ∧
      ∃ named ∈ junctionRelations schema stated, junctionName named = table.name ∧
        ((resolveColumn schema.tables before).refersTo named.relation.source = true ∨
          (resolveColumn schema.tables before).refersTo named.relation.target = true)
  resolved : ∀ r ∈ before.reference,
    after.reference = some { r with table := resolveName schema.tables r.table }
  attached : before.reference = none → ∀ r ∈ after.reference,
    ∃ relation ∈ keyRelations schema stated,
      relation.source = ⟨table.name, before.name⟩ ∧ r = relation.reference

/-- Before the foreign keys are added a column refers to what it referred to from the outset. -/
def ColumnJoined (schema : Schema) (stated : List NamedRelation) (table : Table)
    (before after : Column) : Prop :=
  ColumnKept schema stated table before after ∧
    after.reference = (resolveColumn schema.tables before).reference

theorem columnJoined_resolveColumn (table : Table) (column : Column) :
    ColumnJoined schema stated table column (resolveColumn schema.tables column) := by
  refine ⟨⟨rfl, fun h => absurd rfl h, fun r hr => ?_, fun hnone r hr => ?_⟩, rfl⟩
  · rw [resolveColumn, show column.reference = some r from hr, Option.map_some]
  · rw [resolveColumn, hnone] at hr
    contradiction

/-- A column that gets into the primary key of a junction table refers to an endpoint, and so it did
from the outset. -/
theorem ColumnJoined.promote {table : Table} {before after : Column}
    (h : ColumnJoined schema stated table before after)
    (hnamed : named ∈ junctionRelations schema stated) (hname : table.name = junctionName named) :
    ColumnJoined schema stated table before (promote named.relation after) := by
  obtain ⟨hkept, hreference⟩ := h
  unfold Linking.promote
  split
  · rename_i hrefers
    refine ⟨⟨?_, fun _ => ⟨rfl, named, hnamed, hname.symm, ?_⟩, hkept.resolved, hkept.attached⟩,
      hreference⟩
    · rw [hkept.rest]
    · rw [Column.refersTo, Column.refersTo, ← hreference]
      exact Bool.or_eq_true_iff.mp hrefers
  · exact ⟨hkept, hreference⟩

theorem ColumnKept.attach {table : Table} {before after : Column}
    (h : ColumnKept schema stated table before after)
    (hrelation : relation ∈ keyRelations schema stated)
    (hsource : relation.source = ⟨table.name, after.name⟩) :
    ColumnKept schema stated table before (attach relation after) := by
  unfold Linking.attach
  split
  · exact h
  · rename_i hnone
    have hname : after.name = before.name := by rw [h.rest]
    refine ⟨by rw [h.rest], h.primaryKey, fun r hr => ?_, fun _ r hr => ?_⟩
    -- a column that had a reference has it still, so that nothing is attached
    · rw [h.resolved r hr] at hnone
      contradiction
    · cases hr
      exact ⟨relation, hrelation, hname ▸ hsource, rfl⟩

/-! ### Every step -/

theorem grows_resolvedSchema (schema : Schema) (stated : List NamedRelation) :
    schema.Grows (ColumnJoined schema stated) (resolvedSchema schema) := by
  refine ⟨rfl, Extends.of_map (fun table => ⟨rfl, rfl, ?_⟩) schema.tables⟩
  exact Extends.of_map (columnJoined_resolveColumn table) table.columns

theorem reference_isSome_of_mem_missingColumns {table : Table} {column : Column}
    (h : column ∈ missingColumns schema relation table) : column.reference.isSome = true := by
  obtain ⟨endpoint, -, rfl⟩ := List.mem_map.mp h
  rfl

theorem grows_linkJunction (h : schema.Grows (ColumnJoined schema stated) current)
    (hnamed : named ∈ junctionRelations schema stated) :
    schema.Grows (ColumnJoined schema stated) (linkJunction current named).value := by
  rw [linkJunction_value]
  refine h.withTable.updateTable (joinTable_name _ _) (fun _ => rfl)
    fun first table hfirst hcolumns => ?_
  refine (hcolumns.map (fun before after hjoined => hjoined.promote hnamed hfirst) ?_).append ?_
  · intro column hkey
    rwa [promote_reference]
  · intro column hmissing
    exact reference_isSome_of_mem_missingColumns hmissing

theorem keyTable_aliasName (schema : Schema) (relation : Relation) (table : Table) :
    (keyTable schema relation table).aliasName = table.aliasName := by
  unfold keyTable
  split <;> rfl

theorem grows_linkForeignKey (h : schema.Grows (ColumnKept schema stated) current)
    (hrelation : relation ∈ keyRelations schema stated) :
    schema.Grows (ColumnKept schema stated) (linkForeignKey current relation).value := by
  rw [linkForeignKey_value]
  refine h.updateTable (keyTable_name _ _) (keyTable_aliasName _ _)
    fun first table hfirst hcolumns => ?_
  unfold keyTable
  split
  · refine hcolumns.updateFirst ?_ ?_
    · intro before after hfound hkept
      refine hkept.attach hrelation ?_
      rw [hfirst, of_decide_eq_true hfound]
    · intro column _ _
      rw [attach_reference, Option.isSome_some]
  · exact hcolumns.append (List.forall_mem_singleton.mpr rfl)

/-- A schema grows when it is linked. -/
theorem grows_link (schema : Schema) (stated : List NamedRelation) :
    schema.Grows (ColumnKept schema stated) (link schema stated).value := by
  have hjoined : schema.Grows (ColumnJoined schema stated) (joinedSchema schema stated) :=
    linkEach_preserves (grows_resolvedSchema schema stated) fun _ _ hnamed h =>
      grows_linkJunction h hnamed
  have hkeyed : schema.Grows (ColumnKept schema stated) (keyedSchema schema stated) :=
    linkEach_preserves (hjoined.mono fun _ _ _ h => h.1) fun _ _ hrelation h =>
      grows_linkForeignKey h hrelation
  exact ⟨hkeyed.metadata, hkeyed.tables⟩

/-! ### Names stay distinct -/

theorem nodup_withTable (h : (schema.tables.map (·.name)).Nodup) (name : String) :
    ((schema.withTable name).tables.map (·.name)).Nodup := by
  cases hname : schema.hasTable name with
  | true => simpa only [Schema.withTable, hname, if_true] using h
  | false =>
      have hfresh : name ∉ schema.tables.map (·.name) := Schema.hasTable_eq_false_iff.mp hname
      rw [Schema.withTable, hname, if_neg Bool.false_ne_true, Schema.addTable, List.map_append]
      exact List.nodup_append.mpr ⟨h, List.nodup_singleton _, by simpa using hfresh⟩

theorem nodup_updateTable {f : Table → Table} (h : (schema.tables.map (·.name)).Nodup)
    (hname : ∀ table, (f table).name = table.name) (name : String) :
    ((schema.updateTable name f).tables.map (·.name)).Nodup := by
  rwa [Schema.updateTable, map_updateFirst hname]

theorem nodup_link (h : (schema.tables.map (·.name)).Nodup) (stated : List NamedRelation) :
    ((link schema stated).value.tables.map (·.name)).Nodup := by
  have hresolved : ((resolvedSchema schema).tables.map (·.name)).Nodup := by
    rwa [resolvedSchema, resolveTables, List.map_map]
  have hjoined : ((joinedSchema schema stated).tables.map (·.name)).Nodup := by
    refine linkEach_preserves (P := fun schema => (schema.tables.map (·.name)).Nodup) hresolved ?_
    intro schema named _ h
    rw [linkJunction_value]
    exact nodup_updateTable (nodup_withTable h _) (joinTable_name _ _) _
  refine linkEach_preserves (P := fun schema => (schema.tables.map (·.name)).Nodup) hjoined ?_
  intro schema relation _ h
  rw [linkForeignKey_value]
  exact nodup_updateTable h (keyTable_name _ _) _

/-- **The frame of linking.**  The settings stay, tables and columns are added at the end only, each
new column refers to another one, and to a column that was there nothing happens but what
`ColumnKept` says.  No new table bears the name of an old one, and distinct names stay so. -/
theorem linking_keeps_schema (schema : Schema) (stated : List NamedRelation) :
    schema.Grows (ColumnKept schema stated) (link schema stated).value ∧
      ((schema.tables.map (·.name)).Nodup →
        ((link schema stated).value.tables.map (·.name)).Nodup) :=
  ⟨grows_link schema stated, fun h => nodup_link h stated⟩

/-- A junction that is there gets a column and a key, another one is made, and a foreign key is
added to a third table. -/
theorem linking_keeps_schema_of_three_relations :
    let stated : List NamedRelation :=
      [⟨⟨⟨"U", "id"⟩, ⟨"tags", "id"⟩, .manyToMany, none, none⟩, some "links"⟩,
       ⟨⟨⟨"tags", "id"⟩, ⟨"tags", "id"⟩, .manyToMany, none, none⟩, none⟩,
       ⟨⟨⟨"tags", "owner"⟩, ⟨"U", "id"⟩, .manyToOne, none, none⟩, none⟩]
    (junctionExample.tables.map (·.name)).Nodup ∧
      junctionExample.Grows (ColumnKept junctionExample stated)
        (link junctionExample stated).value ∧
      ((link junctionExample stated).value.tables.map (·.name)).Nodup := by
  intro stated
  have hnames : (junctionExample.tables.map (·.name)).Nodup := by decide
  have hframe := linking_keeps_schema junctionExample stated
  exact ⟨hnames, hframe.1, hframe.2 hnames⟩

end Linking

end Dbml
