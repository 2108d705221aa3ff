import Dbml.Proofs.Linking.InlineKeys

/-!
# Foreign keys from either side

A relation gives its foreign key to the end that is stated first, whatever its cardinality.  To
those who read foreign keys, one-to-many and many-to-one are the same (`Cardinality.asKey`): many
rows refer to one.

* `asKeys_linkForeignKeys`: adding foreign keys goes along with this reading;
* `keyedSchema_append`: what a relation among others does to the tables;
* `link_congr_of_asKey`: relations that read the same make the same tables, and
* `link_congr_of_hasKeyBefore`: so do relations whose ends have their foreign keys anyway;
* `reference?_link_of_ne`, `reference?_link_iff`: the foreign key of a column when one relation
  stands in place of another.
-/

namespace Dbml

open Linking

/-! ### Reading foreign keys -/

/-- The cardinality of a foreign key, where one-to-many is no different from many-to-one. -/
def Cardinality.asKey (c : Cardinality) : Cardinality :=
  if c = .oneToMany then .manyToOne else c

def Reference.asKey (r : Reference) : Reference :=
  { r with cardinality := r.cardinality.map Cardinality.asKey }

def Column.asKey (column : Column) : Column :=
  { column with reference := column.reference.map Reference.asKey }

def Table.asKeys (table : Table) : Table :=
  { table with columns := table.columns.map Column.asKey }

def Relation.asKey (relation : Relation) : Relation :=
  { relation with cardinality := relation.cardinality.asKey }

/-- The tables and the settings of a schema, with its foreign keys as they are read. -/
def Schema.asKeys (schema : Schema) : Schema where
  tables := schema.tables.map Table.asKeys
  metadata := schema.metadata

variable {schema : Schema} {relation : Relation} {endpoint : Endpoint} {name : String}

theorem Schema.table?_asKeys (schema : Schema) (name : String) :
    schema.asKeys.table? name = (schema.table? name).map Table.asKeys := by
  rw [Schema.table?, Schema.asKeys, List.find?_map]
  rfl

theorem Table.column?_asKeys (table : Table) (name : String) :
    table.asKeys.column? name = (table.column? name).map Column.asKey := by
  rw [Table.column?, Table.asKeys, List.find?_map]
  rfl

theorem Schema.column?_asKeys (schema : Schema) (endpoint : Endpoint) :
    schema.asKeys.column? endpoint = (schema.column? endpoint).map Column.asKey := by
  rw [Schema.column?, Schema.column?, Schema.table?_asKeys]
  cases schema.table? endpoint.table with
  | none => rfl
  | some table => exact table.column?_asKeys endpoint.column

theorem Schema.reference?_asKeys (schema : Schema) (endpoint : Endpoint) :
    schema.asKeys.reference? endpoint = (schema.reference? endpoint).map Reference.asKey := by
  rw [Schema.reference?, Schema.reference?, Schema.column?_asKeys]
  cases schema.column? endpoint <;> rfl

theorem keyType_asKeys (schema : Schema) (endpoint : Endpoint) :
    keyType schema.asKeys endpoint = keyType schema endpoint := by
  rw [keyType, keyType, Schema.columnType?_eq_map, Schema.columnType?_eq_map, Schema.column?_asKeys,
    Option.map_map]
  rfl

theorem attach_asKey (relation : Relation) (column : Column) :
    (attach relation column).asKey = attach relation.asKey column.asKey := by
  obtain ⟨_, _, _, _, _, _, _, _, reference⟩ := column
  cases reference <;> rfl

theorem foreignKey_asKey (schema : Schema) (relation : Relation) :
    (foreignKey schema relation).asKey = foreignKey schema.asKeys relation.asKey := by
  rw [foreignKey, foreignKey, show relation.asKey.target = relation.target from rfl, keyType_asKeys]
  rfl

theorem keyTable_asKeys (schema : Schema) (relation : Relation) (table : Table) :
    (keyTable schema relation table).asKeys =
      keyTable schema.asKeys relation.asKey table.asKeys := by
  have hsource : relation.asKey.source = relation.source := rfl
  unfold keyTable
  rw [hsource, Table.column?_asKeys]
  cases table.column? relation.source.column with
  | some column =>
      have hcolumns : (updateFirst (·.name = relation.source.column) (attach relation)
          table.columns).map Column.asKey =
            updateFirst (·.name = relation.source.column) (attach relation.asKey)
              (table.columns.map Column.asKey) :=
        map_updateFirst_comm (fun _ => rfl) fun column _ => attach_asKey relation column
      exact congrArg (fun columns => { table with columns }) hcolumns
  | none =>
      have hcolumns : (table.columns ++ [foreignKey schema relation]).map Column.asKey =
          table.columns.map Column.asKey ++ [foreignKey schema.asKeys relation.asKey] := by
        rw [List.map_append, List.map_singleton, foreignKey_asKey]
      exact congrArg (fun columns => { table with columns }) hcolumns

theorem asKeys_linkForeignKey (schema : Schema) (relation : Relation) :
    (linkForeignKey schema relation).value.asKeys =
      (linkForeignKey schema.asKeys relation.asKey).value := by
  have htables : (updateFirst (·.name = relation.source.table) (keyTable schema relation)
      schema.tables).map Table.asKeys =
        updateFirst (·.name = relation.source.table) (keyTable schema.asKeys relation.asKey)
          (schema.tables.map Table.asKeys) :=
    map_updateFirst_comm (fun _ => rfl) fun table _ => keyTable_asKeys schema relation table
  rw [linkForeignKey_value, linkForeignKey_value]
  exact congrArg (fun tables => { schema.asKeys with tables }) htables

/-- Adding foreign keys goes along with reading them. -/
theorem asKeys_linkForeignKeys (schema : Schema) (relations : List Relation) :
    (linkEach linkForeignKey schema relations).value.asKeys =
      (linkEach linkForeignKey schema.asKeys (relations.map Relation.asKey)).value := by
  induction relations generalizing schema with
  | nil => rfl
  | cons first rest ih => rw [linkEach_cons, List.map_cons, linkEach_cons, ih,
    asKeys_linkForeignKey]

namespace Linking

variable {earlier later : List NamedRelation} {named first second : NamedRelation}

/-! ### A relation among others -/

theorem joinedSchema_append (schema : Schema) (earlier later : List NamedRelation)
    (hmany : named.relation.isManyToMany = false) :
    joinedSchema schema (earlier ++ named :: later) = joinedSchema schema (earlier ++ later) := by
  have hkey : (resolveRelation schema.tables named).relation.isManyToMany = false := hmany
  have hjunctions : junctionRelations schema (earlier ++ named :: later) =
      junctionRelations schema (earlier ++ later) := by
    simp [junctionRelations, resolvedRelations, hkey]
  rw [joinedSchema, joinedSchema, hjunctions]

theorem keyedSchema_append (schema : Schema) (earlier later : List NamedRelation)
    (hmany : named.relation.isManyToMany = false) :
    keyedSchema schema (earlier ++ named :: later) =
      (linkEach linkForeignKey (joinedSchema schema (earlier ++ later))
        (keyRelations schema earlier ++
          (resolveRelation schema.tables named).relation :: keyRelations schema later)).value := by
  rw [keyedSchema, joinedSchema_append schema earlier later hmany,
    keyRelations_append schema earlier later hmany]

/-- Of a linked schema only the tables and the settings are read, which the last pass leaves. -/
theorem asKeys_link (schema : Schema) (stated : List NamedRelation) :
    (link schema stated).value.asKeys = (keyedSchema schema stated).asKeys := rfl

theorem reference?_link_eq (schema : Schema) (stated : List NamedRelation) (endpoint : Endpoint) :
    (link schema stated).value.reference? endpoint =
      (keyedSchema schema stated).reference? endpoint := rfl

/-- Relations that are read the same make the same tables. -/
theorem link_congr_of_asKey (hfirst : first.relation.isManyToMany = false)
    (hsecond : second.relation.isManyToMany = false)
    (h : (resolveRelation schema.tables first).relation.asKey =
      (resolveRelation schema.tables second).relation.asKey) :
    (link schema (earlier ++ first :: later)).value.asKeys =
      (link schema (earlier ++ second :: later)).value.asKeys := by
  rw [asKeys_link, asKeys_link, keyedSchema_append schema earlier later hfirst,
    keyedSchema_append schema earlier later hsecond, asKeys_linkForeignKeys, asKeys_linkForeignKeys]
  simp only [List.map_append, List.map_cons, h]

/-- When foreign keys are added for a relation between others, the column has one already, or there
is no table for it. -/
def HasKeyBefore (schema : Schema) (earlier later : List NamedRelation)
    (endpoint : Endpoint) : Prop :=
  (joinedSchema schema (earlier ++ later)).hasTable endpoint.table = true →
    ((joinedSchema schema (earlier ++ later)).reference? endpoint).isSome = true ∨
      ∃ relation ∈ keyRelations schema earlier, relation.source = endpoint

/-- The foreign key that a column has when foreign keys are added for a relation between others. -/
def keyBefore? (schema : Schema) (earlier later : List NamedRelation) (endpoint : Endpoint) :
    Option Reference :=
  ((joinedSchema schema (earlier ++ later)).reference? endpoint).or
    (((keyRelations schema earlier).find? (·.source = endpoint)).map Relation.reference)

theorem hasKeyBefore_iff : HasKeyBefore schema earlier later endpoint ↔
    ((joinedSchema schema (earlier ++ later)).hasTable endpoint.table = true →
      (keyBefore? schema earlier later endpoint).isSome = true) := by
  simp [HasKeyBefore, keyBefore?, Option.isSome_or, List.find?_isSome]

theorem HasKeyBefore.isKeyed (h : HasKeyBefore schema earlier later relation.source) :
    (linkEach linkForeignKey (joinedSchema schema (earlier ++ later))
      (keyRelations schema earlier)).value.IsKeyed relation := by
  intro htable
  rw [hasTable_linkForeignKeys] at htable
  rw [reference?_linkForeignKeys _ htable]
  exact hasKeyBefore_iff.mp h htable

/-- Relations that find foreign keys at their sources make no difference. -/
theorem link_congr_of_hasKeyBefore (hfirst : first.relation.isManyToMany = false)
    (hsecond : second.relation.isManyToMany = false)
    (hkey : HasKeyBefore schema earlier later (resolveRelation schema.tables first).relation.source)
    (hother : HasKeyBefore schema earlier later
      (resolveRelation schema.tables second).relation.source) :
    (link schema (earlier ++ first :: later)).value.asKeys =
      (link schema (earlier ++ second :: later)).value.asKeys := by
  rw [asKeys_link, asKeys_link, keyedSchema_append schema earlier later hfirst,
    keyedSchema_append schema earlier later hsecond, linkEach_append, linkEach_append,
      linkEach_cons,
    linkEach_cons,
    hkey.isKeyed.linkForeignKey_eq_self, hother.isKeyed.linkForeignKey_eq_self]

/-! ### The foreign key of a column -/

/-- A column has the foreign key that it has before the relation, or that of the first relation from
it then on. -/
theorem reference?_link (hmany : named.relation.isManyToMany = false)
    (htable : (joinedSchema schema (earlier ++ later)).hasTable endpoint.table = true) :
    (link schema (earlier ++ named :: later)).value.reference? endpoint =
      (keyBefore? schema earlier later endpoint).or
        ((((resolveRelation schema.tables named).relation :: keyRelations schema later).find?
          (·.source = endpoint)).map Relation.reference) := by
  rw [reference?_link_eq, keyedSchema_append schema earlier later hmany,
    reference?_linkForeignKeys _ htable, keyBefore?, List.find?_append, Option.map_or,
      Option.or_assoc]

theorem reference?_link_of_hasTable_eq_false (hmany : named.relation.isManyToMany = false)
    (htable : (joinedSchema schema (earlier ++ later)).hasTable endpoint.table = false) :
    (link schema (earlier ++ named :: later)).value.reference? endpoint = none := by
  have hkeyed : (keyedSchema schema (earlier ++ named :: later)).hasTable endpoint.table =
      false := by
    rw [keyedSchema, hasTable_linkForeignKeys, joinedSchema_append schema earlier later hmany,
      htable]
  have hnone : (keyedSchema schema (earlier ++ named :: later)).table? endpoint.table = none := by
    simpa [Schema.hasTable_eq_isSome] using hkeyed
  rw [reference?_link_eq, Schema.reference?, Schema.column?, hnone]
  rfl

/-- A relation puts its foreign key at its source, unless there is one before. -/
theorem reference?_link_source (hmany : named.relation.isManyToMany = false)
    (hnone : ¬ HasKeyBefore schema earlier later
      (resolveRelation schema.tables named).relation.source) :
    (link schema (earlier ++ named :: later)).value.reference?
        (resolveRelation schema.tables named).relation.source =
      some (resolveRelation schema.tables named).relation.reference := by
  rw [hasKeyBefore_iff, Classical.not_imp, Bool.not_eq_true, Option.isSome_eq_false_iff,
    Option.isNone_iff_eq_none] at hnone
  rw [reference?_link hmany hnone.1, hnone.2, List.find?_cons_of_pos (by simp)]
  rfl

/-- A relation in place of another makes no difference to columns that neither comes from. -/
theorem reference?_link_of_ne (hfirst : first.relation.isManyToMany = false)
    (hsecond : second.relation.isManyToMany = false)
    (hne : (resolveRelation schema.tables first).relation.source ≠ endpoint)
    (hother : (resolveRelation schema.tables second).relation.source ≠ endpoint) :
    (link schema (earlier ++ first :: later)).value.reference? endpoint =
      (link schema (earlier ++ second :: later)).value.reference? endpoint := by
  cases htable : (joinedSchema schema (earlier ++ later)).hasTable endpoint.table with
  | false =>
      rw [reference?_link_of_hasTable_eq_false hfirst htable,
        reference?_link_of_hasTable_eq_false hsecond htable]
  | true =>
      rw [reference?_link hfirst htable, reference?_link hsecond htable,
        List.find?_cons_of_neg (by simpa using hne), List.find?_cons_of_neg (by simpa using hother)]

/-- A relation that is taken for one from another column leaves its own source the same foreign key
just if there is one before, or the next relation from there gives the same. -/
theorem reference?_link_iff (hfirst : first.relation.isManyToMany = false)
    (hsecond : second.relation.isManyToMany = false)
    (hsource : (resolveRelation schema.tables first).relation.source = endpoint)
    (hne : (resolveRelation schema.tables second).relation.source ≠ endpoint) :
    ((link schema (earlier ++ first :: later)).value.reference? endpoint).map Reference.asKey =
        ((link schema (earlier ++ second :: later)).value.reference? endpoint).map Reference.asKey ↔
      HasKeyBefore schema earlier later endpoint ∨
        ((keyRelations schema later).find? (·.source = endpoint)).map (·.reference.asKey) =
          some (resolveRelation schema.tables first).relation.reference.asKey := by
  rw [hasKeyBefore_iff]
  cases htable : (joinedSchema schema (earlier ++ later)).hasTable endpoint.table with
  | false =>
      rw [reference?_link_of_hasTable_eq_false hfirst htable,
        reference?_link_of_hasTable_eq_false hsecond htable]
      simp
  | true =>
      rw [reference?_link hfirst htable, reference?_link hsecond htable,
        List.find?_cons_of_pos (by simpa using hsource),
          List.find?_cons_of_neg (by simpa using hne)]
      cases keyBefore? schema earlier later endpoint with
      | some reference => simp
      | none =>
          simp only [Option.none_or, Option.map_some, Option.map_map, Option.isSome_none,
            Bool.false_eq_true, forall_const, false_or]
          exact eq_comm

end Linking

end Dbml
