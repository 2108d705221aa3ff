import Dbml.Proofs.Linking.Columns
import Dbml.Proofs.Linking.Identity
import Dbml.Proofs.Linking.Relations

/-!
# A relation that is stated twice

Stating a relation again, however much later and whatever is stated in between, changes nothing
(`link_repeated`).  Each pass meets the second statement with nothing left to do for it:

* the junction table of a many-to-many relation has a key to either endpoint, and since it was
  joined all its columns that refer to an endpoint are in the primary key (`Schema.IsJoined`).
  Later relations only add columns that are in the primary key themselves;
* the source of any other relation has a reference, unless its table is missing, and then it is
  missing still (`Schema.IsKeyed`);
* a relation between the same columns has been kept.

The first two are instances of `linkEach_repeat`.
-/

namespace Dbml

variable {schema : Schema} {named : NamedRelation} {relation : Relation} {endpoint : Endpoint}
  {table : Table} {name : String}

/-! ### Steps that are done twice -/

theorem Schema.updateTable_of_fixed {f : Table → Table}
    (h : ∀ table, schema.table? name = some table → f table = table) :
    schema.updateTable name f = schema := by
  have hid : schema.updateTable name f = schema.updateTable name id := Schema.updateTable_congr h
  rw [hid, Schema.updateTable, Linking.updateFirst_id]

namespace Linking

/-- A step whose effect no later step undoes has no effect when it is done again. -/
theorem linkEach_repeat {α : Type} {step : Schema → α → Traced Schema} {P : Schema → Prop} {x : α}
    (hown : ∀ schema, P (step schema x).value)
    (hother : ∀ schema y, P schema → P (step schema y).value)
    (hdone : ∀ schema, P schema → (step schema x).value = schema)
    (schema : Schema) (before between after : List α) :
    (linkEach step schema (before ++ [x] ++ between ++ [x] ++ after)).value =
      (linkEach step schema (before ++ [x] ++ between ++ after)).value := by
  let reached := (linkEach step schema (before ++ [x] ++ between)).value
  have hreached : P reached := by
    have hfirst : P (linkEach step schema (before ++ [x])).value := by
      rw [linkEach_append]
      exact hown _
    have hrun : reached =
        (linkEach step (linkEach step schema (before ++ [x])).value between).value :=
      linkEach_append ..
    rw [hrun]
    exact linkEach_preserves hfirst fun schema y _ h => hother schema y h
  calc (linkEach step schema (before ++ [x] ++ between ++ [x] ++ after)).value
      = (linkEach step (step reached x).value after).value := by
        rw [List.append_assoc, linkEach_append, List.singleton_append, linkEach_cons]
    _ = (linkEach step reached after).value := by rw [hdone reached hreached]
    _ = (linkEach step schema (before ++ [x] ++ between ++ after)).value :=
        (linkEach_append schema (before ++ [x] ++ between) after).symm

end Linking

open Linking

/-! ### Junction tables that are complete -/

/-- All columns that refer to the endpoint are in the primary key. -/
def Table.OnlyKeysTo (table : Table) (endpoint : Endpoint) : Prop :=
  ∀ column ∈ table.columns, column.refersTo endpoint = true → column.primaryKey = true

theorem primaryKey_of_mem_missingColumns {column : Column}
    (h : column ∈ missingColumns schema relation table) : column.primaryKey = true := by
  obtain ⟨endpoint, -, rfl⟩ := List.mem_map.mp h
  rfl

theorem onlyKeysTo_joinTable (schema : Schema) (table : Table) (hend : relation.HasEnd endpoint) :
    (joinTable schema relation table).OnlyKeysTo endpoint := by
  intro column hcolumn hrefers
  rcases List.mem_append.mp hcolumn with hold | hmissing
  · obtain ⟨before, -, rfl⟩ := List.mem_map.mp hold
    rw [promote_refersTo] at hrefers
    rcases hend with rfl | rfl <;> simp [promote, hrefers]
  · exact primaryKey_of_mem_missingColumns hmissing

theorem Table.OnlyKeysTo.joinTable (h : table.OnlyKeysTo endpoint) :
    (joinTable schema relation table).OnlyKeysTo endpoint := by
  intro column hcolumn hrefers
  rcases List.mem_append.mp hcolumn with hold | hmissing
  · obtain ⟨before, hbefore, rfl⟩ := List.mem_map.mp hold
    rw [promote_refersTo] at hrefers
    exact promote_primaryKey (h before hbefore hrefers)
  · exact primaryKey_of_mem_missingColumns hmissing

/-- In the first table of the name all columns that refer to the endpoint are in the primary key. -/
def Schema.OnlyKeysTo (schema : Schema) (name : String) (endpoint : Endpoint) : Prop :=
  ∀ table, schema.table? name = some table → table.OnlyKeysTo endpoint

theorem Schema.OnlyKeysTo.linkJunction (h : schema.OnlyKeysTo name endpoint)
    (named : NamedRelation) : (linkJunction schema named).value.OnlyKeysTo name endpoint := by
  intro table htable
  rw [table?_linkJunction] at htable
  split at htable
  · cases htable
    cases hfound : schema.table? name with
    | some found => exact (h found hfound).joinTable
    | none =>
        have hempty : ({ name } : Table).OnlyKeysTo endpoint := List.forall_mem_nil _
        exact hempty.joinTable
  · exact h table htable

theorem onlyKeysTo_linkJunction (schema : Schema) (named : NamedRelation)
    (hend : named.relation.HasEnd endpoint) :
    (linkJunction schema named).value.OnlyKeysTo (junctionName named) endpoint := by
  intro table htable
  rw [table?_linkJunction, if_pos rfl] at htable
  cases htable
  exact onlyKeysTo_joinTable schema _ hend

/-- The junction table of a relation has keys to both endpoints, and no column that refers to one of
them is left out of its primary key. -/
structure Schema.IsJoined (schema : Schema) (named : NamedRelation) : Prop where
  joins : ∀ endpoint, named.relation.HasEnd endpoint → schema.Joins (junctionName named) endpoint
  onlyKeys : ∀ endpoint, named.relation.HasEnd endpoint →
    schema.OnlyKeysTo (junctionName named) endpoint

theorem isJoined_linkJunction (schema : Schema) (named : NamedRelation) :
    (linkJunction schema named).value.IsJoined named where
  joins := fun _ hend => joins_linkJunction schema named hend
  onlyKeys := fun _ hend => onlyKeysTo_linkJunction schema named hend

theorem Schema.IsJoined.linkJunction (h : schema.IsJoined named) (other : NamedRelation) :
    (linkJunction schema other).value.IsJoined named where
  joins := fun endpoint hend => (h.joins endpoint hend).linkJunction other
  onlyKeys := fun endpoint hend => (h.onlyKeys endpoint hend).linkJunction other

/-- When all junctions are made, each of them is complete. -/
theorem isJoined_joinedSchema {stated : List NamedRelation}
    (hnamed : named ∈ junctionRelations schema stated) :
      (joinedSchema schema stated).IsJoined named :=
  linkEach_establishes (P := fun named schema => schema.IsJoined named)
    (fun schema named _ => isJoined_linkJunction schema named)
    (fun _ _ _ other _ h => h.linkJunction other) named hnamed

theorem Table.HasKeyTo.any_refersTo (h : table.HasKeyTo endpoint) :
    table.columns.any (·.refersTo endpoint) = true := by
  obtain ⟨column, hcolumn, -, hrefers⟩ := h
  exact List.any_eq_true.mpr ⟨column, hcolumn, hrefers⟩

/-- A complete junction table stays as it is. -/
theorem joinTable_eq_self (hkeys : ∀ endpoint, relation.HasEnd endpoint → table.HasKeyTo endpoint)
    (honly : ∀ endpoint, relation.HasEnd endpoint → table.OnlyKeysTo endpoint) :
    joinTable schema relation table = table := by
  have hpromote : ∀ column ∈ table.columns, promote relation column = column := by
    intro column hcolumn
    unfold promote
    split
    · rename_i hrefers
      have hprimary : column.primaryKey = true := by
        rcases Bool.or_eq_true_iff.mp hrefers with hsource | htarget
        · exact honly _ (.inl rfl) column hcolumn hsource
        · exact honly _ (.inr rfl) column hcolumn htarget
      rw [← hprimary]
    · rfl
  have hcolumns : table.columns.map (promote relation) = table.columns :=
    (List.map_congr_left hpromote).trans (List.map_id _)
  have hmissing : missingColumns schema relation table = [] := by
    simp [missingColumns, (hkeys _ (.inl rfl)).any_refersTo, (hkeys _ (.inr rfl)).any_refersTo]
  rw [joinTable, hcolumns, hmissing, List.append_nil]

theorem Schema.IsJoined.linkJunction_eq_self (h : schema.IsJoined named) :
    (Linking.linkJunction schema named).value = schema := by
  obtain ⟨found, hfound, -⟩ := h.joins _ (.inl rfl)
  rw [linkJunction_value, withTable_of_table? hfound]
  refine Schema.updateTable_of_fixed fun table htable => joinTable_eq_self ?_ ?_
  · intro endpoint hend
    obtain ⟨joined, hjoined, hkey⟩ := h.joins endpoint hend
    cases htable.symm.trans hjoined
    exact hkey
  · intro endpoint hend
    exact h.onlyKeys endpoint hend table htable

/-! ### Foreign keys that are there -/

/-- The source of the relation has a reference, if its table exists. -/
def Schema.IsKeyed (schema : Schema) (relation : Relation) : Prop :=
  schema.hasTable relation.source.table = true → (schema.reference? relation.source).isSome = true

theorem isKeyed_linkForeignKey (schema : Schema) (relation : Relation) :
    (linkForeignKey schema relation).value.IsKeyed relation := by
  intro htable
  rw [hasTable_linkForeignKey] at htable
  rw [reference?_linkForeignKey, if_pos ⟨rfl, htable⟩, Option.isSome_some]

theorem Schema.IsKeyed.linkForeignKey (h : schema.IsKeyed relation) (other : Relation) :
    (linkForeignKey schema other).value.IsKeyed relation := by
  intro htable
  rw [hasTable_linkForeignKey] at htable
  rw [reference?_linkForeignKey]
  split
  · rw [Option.isSome_some]
  · exact h htable

theorem Schema.IsKeyed.linkForeignKey_eq_self (h : schema.IsKeyed relation) :
    (Linking.linkForeignKey schema relation).value = schema := by
  cases htable : schema.hasTable relation.source.table with
  | true => exact Linking.linkForeignKey_eq_self (h htable)
  | false =>
      have hnone : schema.table? relation.source.table = none := by
        simpa [hasTable_eq_isSome] using htable
      rw [linkForeignKey_value, Schema.updateTable_eq_self hnone]

/-! ### Relations that are kept -/

namespace Linking

theorem dropDuplicates_append (kept xs ys : List Relation) :
    (dropDuplicates kept (xs ++ ys)).value =
      (dropDuplicates (dropDuplicates kept xs).value ys).value := by
  induction xs generalizing kept with
  | nil => rfl
  | cons x rest ih =>
      rw [List.cons_append, dropDuplicates, dropDuplicates]
      split
      · exact ih kept
      · exact ih (kept ++ [x])

/-- A relation is not kept a second time. -/
theorem keptRelations_repeat {earlier : List Relation} (h : relation ∈ earlier)
    (later : List Relation) :
    keptRelations (earlier ++ [relation] ++ later) = keptRelations (earlier ++ later) := by
  obtain ⟨first, hkept, hfirst⟩ := exists_first h
  rw [← keptRelations_eq] at hkept
  have hsame := List.find?_some hfirst
  have hrepeats : (keptRelations earlier).any (·.sameEndpoints relation) = true :=
    List.any_eq_true.mpr ⟨first, hkept, hsame⟩
  have hdropped : (dropDuplicates (keptRelations earlier) (relation :: later)).value =
      (dropDuplicates (keptRelations earlier) later).value := by
    rw [dropDuplicates, if_pos hrepeats]
    rfl
  calc keptRelations (earlier ++ [relation] ++ later)
      = (dropDuplicates (keptRelations earlier) (relation :: later)).value := by
        rw [List.append_assoc, List.singleton_append]
        exact dropDuplicates_append [] earlier (relation :: later)
    _ = (dropDuplicates (keptRelations earlier) later).value := hdropped
    _ = keptRelations (earlier ++ later) := (dropDuplicates_append [] earlier later).symm

/-! ### All together -/

theorem joinedSchema_repeated (schema : Schema) (named : NamedRelation)
    (before between after : List NamedRelation) :
    joinedSchema schema (before ++ [named] ++ between ++ [named] ++ after) =
      joinedSchema schema (before ++ [named] ++ between ++ after) := by
  unfold joinedSchema junctionRelations resolvedRelations
  simp only [List.map_append, List.filter_append, List.map_cons, List.map_nil, List.filter_cons,
    List.filter_nil]
  split
  · exact linkEach_repeat (P := (·.IsJoined (resolveRelation schema.tables named)))
      (fun schema => isJoined_linkJunction schema _) (fun _ other h => h.linkJunction other)
      (fun _ h => h.linkJunction_eq_self) ..
  · simp only [List.append_nil]

theorem keyedSchema_repeated (schema : Schema) (named : NamedRelation)
    (before between after : List NamedRelation) :
    keyedSchema schema (before ++ [named] ++ between ++ [named] ++ after) =
      keyedSchema schema (before ++ [named] ++ between ++ after) := by
  unfold keyedSchema
  rw [joinedSchema_repeated]
  unfold keyRelations resolvedRelations
  simp only [List.map_append, List.filter_append, List.map_cons, List.map_nil, List.filter_cons,
    List.filter_nil]
  split
  · exact linkEach_repeat (P := (·.IsKeyed (resolveRelation schema.tables named).relation))
      (fun schema => isKeyed_linkForeignKey schema _) (fun _ other h => h.linkForeignKey other)
      (fun _ h => h.linkForeignKey_eq_self) ..
  · simp only [List.map_nil, List.append_nil]

/-- **Stating a relation again changes nothing**, whatever is stated before, in between and
after. -/
theorem link_repeated (schema : Schema) (named : NamedRelation)
    (before between after : List NamedRelation) :
    (link schema (before ++ [named] ++ between ++ [named] ++ after)).value =
      (link schema (before ++ [named] ++ between ++ after)).value := by
  have hkept : keptRelations ((resolvedRelations schema
        (before ++ [named] ++ between ++ [named] ++ after)).map (·.relation)) =
      keptRelations ((resolvedRelations schema
        (before ++ [named] ++ between ++ after)).map (·.relation)) := by
    simp only [resolvedRelations, List.map_append, List.map_cons, List.map_nil]
    exact keptRelations_repeat (by simp) _
  rw [link_value, link_value, keyedSchema_repeated, hkept]

end Linking

end Dbml
