import Dbml.Proofs.Linking.Frame
import Dbml.Proofs.Linking.Repetition

/-!
# A many-to-many relation and the tables at its ends

On its own a many-to-many relation changes one table, which bears its junction name, or makes it.
The tables at its ends do not get foreign keys, unless one of them is that table.

* `junctionName_eq_iff`: this takes a relation that is given the name of the table.  A name that is
  made from those of two tables is longer than either.
* `joinTable_eq_self_iff`: and even then a table that joins the endpoints already stays as it is.

`endpoint_table_kept_iff` says so of the linked schema.
-/

namespace Dbml.Linking

variable {schema : Schema} {named : NamedRelation} {relation : Relation} {table : Table}
  {name : String} {i : Nat}

/-- The table with the names in all references resolved. -/
def resolveTable (tables : List Table) (table : Table) : Table :=
  { table with columns := table.columns.map (resolveColumn tables) }

/-! ### The table that a relation changes -/

theorem getElem?_withTable (htable : schema.tables[i]? = some table) (name : String) :
    (schema.withTable name).tables[i]? = some table := by
  unfold Schema.withTable
  split
  · exact htable
  · obtain ⟨hlt, -⟩ := List.getElem?_eq_some_iff.mp htable
    rw [Schema.addTable, List.getElem?_append_left hlt, htable]

theorem getElem?_linkJunction (hnames : (schema.tables.map (·.name)).Nodup)
    (htable : schema.tables[i]? = some table) (named : NamedRelation) :
    (linkJunction schema named).value.tables[i]? =
      some (if table.name = junctionName named then joinTable schema named.relation table
        else table) := by
  rw [linkJunction_value]
  exact getElem?_updateFirst_of_nodup (nodup_withTable hnames _) (getElem?_withTable htable _) _

/-- A many-to-many relation on its own has its junction made, and nothing else. -/
theorem tables_link_singleton (hmany : named.relation.isManyToMany = true) :
    (link schema [named]).value.tables =
      (linkJunction (resolvedSchema schema)
        (resolveRelation schema.tables named)).value.tables := by
  have hresolved : (resolveRelation schema.tables named).relation.isManyToMany = true := hmany
  have hjunctions : junctionRelations schema [named] = [resolveRelation schema.tables named] := by
    simp [junctionRelations, resolvedRelations, hresolved]
  have hkeys : keyRelations schema [named] = [] := by
    simp [keyRelations, resolvedRelations, hresolved]
  rw [link_value, keyedSchema, hkeys, joinedSchema, hjunctions]
  rfl

/-! ### The name of the junction -/

theorem junctionName_eq_iff
    (hend : name = named.relation.source.table ∨ name = named.relation.target.table) :
    name = junctionName named ↔ named.name = some name := by
  cases hgiven : named.name with
  | some given =>
      rw [junctionName, hgiven, Option.getD_some, Option.some_inj]
      exact eq_comm
  | none =>
      rw [junctionName, hgiven, Option.getD_none]
      constructor
      · intro hsame
        have hlength : name.length =
            named.relation.source.table.length + 1 + named.relation.target.table.length := by
          rw [hsame, String.length_append, String.length_append]
          rfl
        rcases hend with rfl | rfl <;> omega
      · intro hnone
        contradiction

/-! ### A table that joins the endpoints already -/

theorem joinTable_eq_self_iff : joinTable schema relation table = table ↔
    ∀ endpoint, relation.HasEnd endpoint →
      table.HasKeyTo endpoint ∧ table.OnlyKeysTo endpoint := by
  constructor
  · intro hsame endpoint hend
    have hkey := hasKeyTo_joinTable schema table hend
    have honly := onlyKeysTo_joinTable schema table hend
    rw [hsame] at hkey honly
    exact ⟨hkey, honly⟩
  · intro h
    exact joinTable_eq_self (fun endpoint hend => (h endpoint hend).1)
      fun endpoint hend => (h endpoint hend).2

/-! ### All together -/

/-- **The tables at the ends of a many-to-many relation.**  Linking with this relation alone leaves
such a table as it is, but for the aliases in its references, just if the relation is not given the
name of the table, or the table joins the endpoints already: it has a key to each of them, and all
its columns that refer to one of them are in the primary key. -/
theorem endpoint_table_kept_iff (hnames : (schema.tables.map (·.name)).Nodup)
    (hmany : named.relation.isManyToMany = true) (htable : schema.tables[i]? = some table)
    (hend : table.name = resolveName schema.tables named.relation.source.table ∨
      table.name = resolveName schema.tables named.relation.target.table) :
    (link schema [named]).value.tables[i]? = some (resolveTable schema.tables table) ↔
      (named.name = some table.name →
        ∀ endpoint, (resolveRelation schema.tables named).relation.HasEnd endpoint →
          (resolveTable schema.tables table).HasKeyTo endpoint ∧
            (resolveTable schema.tables table).OnlyKeysTo endpoint) := by
  have hresolved : (resolvedSchema schema).tables[i]? =
      some (resolveTable schema.tables table) := by
    rw [resolvedSchema, resolveTables, List.getElem?_map, htable]
    rfl
  have hresolvedNames : ((resolvedSchema schema).tables.map (·.name)).Nodup := by
    rwa [resolvedSchema, resolveTables, List.map_map]
  have hname : (resolveTable schema.tables table).name =
        junctionName (resolveRelation schema.tables named) ↔ named.name = some table.name :=
    junctionName_eq_iff hend
  rw [tables_link_singleton hmany, getElem?_linkJunction hresolvedNames hresolved, Option.some_inj]
  by_cases hown : named.name = some table.name
  · rw [if_pos (hname.mpr hown), joinTable_eq_self_iff]
    exact ⟨fun h _ => h, fun h => h hown⟩
  · rw [if_neg (mt hname.mp hown)]
    exact iff_of_true rfl fun h => absurd h hown

/-- Two tables, the first of them with an alias. -/
def twoEnds : Schema where
  tables :=
    [{ name := "users", aliasName := some "U", columns := [{ name := "id", type := "int" }] },
     { name := "tags"
       columns :=
        [{ name := "id", type := "int" },
         { name := "owner", type := "int", reference := some { table := "U", column := "id" } }] }]

/-- A many-to-many relation between the two, with a name or without. -/
def betweenEnds (name : Option String) : NamedRelation :=
  ⟨⟨⟨"U", "id"⟩, ⟨"tags", "id"⟩, .manyToMany, none, none⟩, name⟩

/-- **A relation can change a table at one of its ends**: given the name of that table, it adds
foreign keys to it and puts a column of it into the primary key. -/
theorem endpoint_table_changed_of_own_name :
    (twoEnds.tables.map (·.name)).Nodup ∧ (betweenEnds (some "tags")).relation.isManyToMany = true ∧
      (link twoEnds [betweenEnds (some "tags")]).value.tables[1]? = some
        { name := "tags"
          columns :=
            [{ name := "id", type := "int" },
             { name := "owner", type := "int", primaryKey := true
               reference := some { table := "users", column := "id" } },
             { name := "tags_id", type := "int", primaryKey := true
               reference := some ⟨"tags", "id", some .manyToOne, none, none⟩ }] } := by
  decide

/-- Without a name the relation leaves both tables as they are, and with that of the second one only
the first. -/
theorem endpoint_table_kept_iff_of_two_ends :
    (twoEnds.tables.map (·.name)).Nodup ∧
      (link twoEnds [betweenEnds none]).value.tables[0]? =
        twoEnds.tables[0]?.map (resolveTable twoEnds.tables) ∧
      (link twoEnds [betweenEnds none]).value.tables[1]? =
        twoEnds.tables[1]?.map (resolveTable twoEnds.tables) ∧
      (link twoEnds [betweenEnds (some "tags")]).value.tables[0]? =
        twoEnds.tables[0]?.map (resolveTable twoEnds.tables) ∧
      (link twoEnds [betweenEnds (some "tags")]).value.tables[1]? ≠
        twoEnds.tables[1]?.map (resolveTable twoEnds.tables) := by
  have hnames : (twoEnds.tables.map (·.name)).Nodup := by decide
  refine ⟨hnames, ?_, ?_, ?_, ?_⟩
  · exact (endpoint_table_kept_iff hnames rfl rfl (.inl rfl)).mpr fun h => by contradiction
  · exact (endpoint_table_kept_iff hnames rfl rfl (.inr rfl)).mpr fun h => by contradiction
  · exact (endpoint_table_kept_iff hnames rfl rfl (.inl rfl)).mpr fun h => absurd h (by decide)
  · intro hkept
    obtain ⟨⟨column, hcolumn, hkey, -⟩, -⟩ :=
      (endpoint_table_kept_iff hnames rfl rfl (.inr rfl)).mp hkept rfl _ (.inl rfl)
    -- no column of the table is in the primary key
    revert column
    decide

end Dbml.Linking
