import Dbml.Proofs.Linking.GivenReference
import Dbml.Proofs.Linking.Repetition

/-!
# Foreign keys that are written inline

A reference may be written at its column, or as a relation on its own.  Either way the relation is
stated, and the only difference is when the column gets the reference: from the outset, or with the
foreign keys, when all junctions have been made.  `inline_eq_external_iff` says when the linked
schemas are equal.

* As long as no junction tells the two apart, every step commutes with giving the reference
  (`linkJunctions_withReference`), up to the relation that gives it itself
  (`linkForeignKeys_withReference`).
* A junction that finds the inline reference puts the column into its primary key, and it never does
  so with the external one (`primaryKey_of_link_eq`).  And if no other column refers to the target,
  it adds one for the external reference (`refersFrom_of_link_eq`).
-/

namespace Dbml.Linking

variable {schema : Schema} {endpoint : Endpoint} {reference : Reference} {relation : Relation}
  {named : NamedRelation} {column : Column} {stated : List NamedRelation}

/-! ### Names -/

theorem resolveName_congr {tables others : List Table}
    (h : tables.map (fun table => (table.name, table.aliasName)) =
      others.map fun table => (table.name, table.aliasName)) (name : String) :
    resolveName tables name = resolveName others name := by
  have hspelled : ∀ tables : List Table, resolveName tables name =
      if (tables.map fun table => (table.name, table.aliasName)).any (·.1 = name) then name
      else (((tables.map fun table => (table.name, table.aliasName)).reverse.find?
        (·.2 = some name)).map (·.1)).getD name := by
    intro tables
    rw [resolveName, List.any_map, ← List.map_reverse, List.find?_map]
    refine if_congr Iff.rfl rfl ?_
    show _ =
      (Option.map _ (Option.map _ (tables.reverse.find? (·.aliasName = some name)))).getD name
    cases tables.reverse.find? (·.aliasName = some name) <;> rfl
  rw [hspelled, hspelled, h]

theorem resolveName_withReference (schema : Schema) (endpoint : Endpoint) (reference : Reference) :
    resolveName (schema.withReference endpoint reference).tables = resolveName schema.tables := by
  have hkept : ∀ table : Table,
      ((table.updateColumn endpoint.column (·.withReference reference)).name,
        (table.updateColumn endpoint.column (·.withReference reference)).aliasName) =
      (table.name, table.aliasName) := fun table => rfl
  funext name
  exact resolveName_congr (map_updateFirst hkept) name

theorem resolveRelation_withReference (schema : Schema) (endpoint : Endpoint)
    (reference : Reference) :
    resolveRelation (schema.withReference endpoint reference).tables =
      resolveRelation schema.tables := by
  funext named
  simp only [resolveRelation, resolveEndpoint, resolveName_withReference]

theorem resolvedRelations_withReference (schema : Schema) (endpoint : Endpoint)
    (reference : Reference) (stated : List NamedRelation) :
    resolvedRelations (schema.withReference endpoint reference) stated =
      resolvedRelations schema stated := by
  unfold resolvedRelations
  rw [resolveRelation_withReference]

theorem junctionRelations_withReference (schema : Schema) (endpoint : Endpoint)
    (reference : Reference) (stated : List NamedRelation) :
    junctionRelations (schema.withReference endpoint reference) stated =
      junctionRelations schema stated := by
  rw [junctionRelations, resolvedRelations_withReference]
  rfl

theorem keyRelations_withReference (schema : Schema) (endpoint : Endpoint) (reference : Reference)
    (stated : List NamedRelation) :
    keyRelations (schema.withReference endpoint reference) stated = keyRelations schema stated := by
  rw [keyRelations, resolvedRelations_withReference]
  rfl

/-- The reference with its name resolved. -/
def resolveReference (tables : List Table) (reference : Reference) : Reference :=
  { reference with table := resolveName tables reference.table }

/-- A reference that was given is resolved as the others are. -/
theorem resolvedSchema_withReference (schema : Schema) (endpoint : Endpoint)
    (reference : Reference) :
    resolvedSchema (schema.withReference endpoint reference) =
      (resolvedSchema schema).withReference endpoint
        (resolveReference schema.tables reference) := by
  have hresolve : resolveColumn (schema.withReference endpoint reference).tables =
      resolveColumn schema.tables := by
    funext column
    simp only [resolveColumn, resolveName_withReference]
  have hcolumns : ∀ table : Table,
      (updateFirst (·.name = endpoint.column) (·.withReference reference) table.columns).map
          (resolveColumn schema.tables) =
        updateFirst (·.name = endpoint.column)
          (·.withReference (resolveReference schema.tables reference))
          (table.columns.map (resolveColumn schema.tables)) := by
    intro table
    exact map_updateFirst_comm (fun column => rfl) fun column _ => rfl
  have htables : resolveTables (schema.withReference endpoint reference).tables =
      updateFirst (·.name = endpoint.table)
        (·.updateColumn endpoint.column
          (·.withReference (resolveReference schema.tables reference)))
        (resolveTables schema.tables) := by
    unfold resolveTables
    rw [hresolve]
    refine map_updateFirst_comm (fun table => rfl) fun table _ => ?_
    rw [Table.updateColumn, Table.updateColumn, hcolumns]
  rw [resolvedSchema, htables]
  rfl

/-! ### A column that is found during the passes -/

theorem column?_linkJunction_of_none (hcolumn : schema.column? endpoint = some column)
    (hnone : column.reference = none) (named : NamedRelation) :
    (linkJunction schema named).value.column? endpoint = some column := by
  rw [column?_linkJunction hcolumn]
  split
  · rw [promote_of_none hnone]
  · rfl

theorem column?_resolvedSchema (schema : Schema) (endpoint : Endpoint) :
    (resolvedSchema schema).column? endpoint =
      (schema.column? endpoint).map (resolveColumn schema.tables) := by
  unfold Schema.column? Schema.table? Table.column? resolvedSchema resolveTables
  rw [List.find?_map]
  show (Option.map _ (schema.tables.find? (·.name = endpoint.table))).bind _ = _
  cases schema.tables.find? (·.name = endpoint.table) with
  | none => rfl
  | some table =>
      show (table.columns.map (resolveColumn schema.tables)).find? _ = _
      rw [List.find?_map]
      rfl

theorem resolveColumn_of_none {tables : List Table} (hnone : column.reference = none) :
    resolveColumn tables column = column := by
  refine resolveColumn_eq_self fun r hr => ?_
  rw [hnone] at hr
  contradiction

theorem column?_resolvedSchema_of_none (hcolumn : schema.column? endpoint = some column)
    (hnone : column.reference = none) : (resolvedSchema schema).column? endpoint = some column := by
  rw [column?_resolvedSchema, hcolumn, Option.map_some, resolveColumn_of_none hnone]

theorem column?_joinedSchema_of_none
    (hcolumn : (resolvedSchema schema).column? endpoint = some column)
    (hnone : column.reference = none) (stated : List NamedRelation) :
    (joinedSchema schema stated).column? endpoint = some column :=
  linkEach_preserves (P := fun current => current.column? endpoint = some column) hcolumn
    fun _ named _ h => column?_linkJunction_of_none h hnone named

/-! ### Where it makes no difference -/

theorem linkJunctions_withReference {relations : List NamedRelation}
    (hcolumn : schema.column? endpoint = some column) (hnone : column.reference = none)
    (hends : ∀ named ∈ relations, junctionName named = endpoint.table →
      named.relation.HasEnd reference.target →
        column.primaryKey = true ∧ schema.RefersFrom endpoint.table reference.target) :
    (linkEach linkJunction (schema.withReference endpoint reference) relations).value =
      (linkEach linkJunction schema relations).value.withReference endpoint reference := by
  induction relations generalizing schema with
  | nil => rfl
  | cons first rest ih =>
      rw [linkEach_cons, linkEach_cons,
        linkJunction_withReference hcolumn hnone (hends first List.mem_cons_self)]
      refine ih (column?_linkJunction_of_none hcolumn hnone first) fun named hnamed hname hend => ?_
      obtain ⟨hprimary, hrefers⟩ := hends named (List.mem_cons_of_mem _ hnamed) hname hend
      exact ⟨hprimary, (refersFrom_linkJunction ..).mpr (.inl hrefers)⟩

/-- Behind the first relation from the column it makes no difference that the column had the
reference before. -/
theorem linkForeignKeys_withReference {before after : List Relation}
    (hcolumn : schema.column? relation.source = some column) (hnone : column.reference = none)
    (hfirst : ∀ earlier ∈ before, earlier.source ≠ relation.source) :
    (linkEach linkForeignKey (schema.withReference relation.source relation.reference)
        (before ++ relation :: after)).value =
      (linkEach linkForeignKey schema (before ++ relation :: after)).value := by
  induction before generalizing schema with
  | nil =>
      have hreference : ((schema.withReference relation.source relation.reference).reference?
          relation.source).isSome = true := by
        rw [Schema.reference?, Schema.column?_withReference, if_pos rfl, hcolumn]
        rfl
      rw [List.nil_append, linkEach_cons, linkEach_cons, linkForeignKey_eq_self hreference,
        linkForeignKey_source hcolumn hnone]
  | cons first rest ih =>
      have hother : first.source ≠ relation.source := hfirst first List.mem_cons_self
      have hthere : (linkForeignKey schema first).value.column? relation.source = some column := by
        rw [column?_linkForeignKey hcolumn, if_neg hother.symm]
      rw [List.cons_append, linkEach_cons, linkEach_cons,
        linkForeignKey_withReference hcolumn hother]
      exact ih hthere fun earlier hearlier => hfirst earlier (List.mem_cons_of_mem _ hearlier)

theorem keyRelations_append (schema : Schema) (before after : List NamedRelation)
    (hmany : named.relation.isManyToMany = false) :
    keyRelations schema (before ++ named :: after) =
      keyRelations schema before ++
        (resolveRelation schema.tables named).relation :: keyRelations schema after := by
  have hkey : (resolveRelation schema.tables named).relation.isManyToMany = false := hmany
  simp [keyRelations, resolvedRelations, hkey]

theorem ne_source_of_mem_keyRelations (hrelation : relation ∈ keyRelations schema stated)
    (hother : ∀ named ∈ stated, named.relation.isManyToMany = false →
      resolveEndpoint schema.tables named.relation.source ≠ endpoint) :
    relation.source ≠ endpoint := by
  obtain ⟨resolved, hresolved, rfl⟩ := List.mem_map.mp hrelation
  obtain ⟨hmem, hmany⟩ := List.mem_filter.mp hresolved
  obtain ⟨named, hnamed, rfl⟩ := List.mem_map.mp hmem
  have hkey : named.relation.isManyToMany = false := by
    simpa [resolveRelation, Relation.isManyToMany] using hmany
  exact hother named hnamed hkey

/-- With all foreign keys the schemas are equal if the first relation from the column states the
reference, and no junction tells them apart. -/
theorem keyedSchema_withReference {before after : List NamedRelation}
    (hcolumn : schema.column? endpoint = some column) (hnone : column.reference = none)
    (hmany : named.relation.isManyToMany = false)
    (hsource : resolveEndpoint schema.tables named.relation.source = endpoint)
    (hfirst : ∀ earlier ∈ before, earlier.relation.isManyToMany = false →
      resolveEndpoint schema.tables earlier.relation.source ≠ endpoint)
    (hends : ∀ other ∈ junctionRelations schema (before ++ named :: after),
      junctionName other = endpoint.table →
        other.relation.HasEnd (resolveEndpoint schema.tables named.relation.target) →
          column.primaryKey = true ∧ (resolvedSchema schema).RefersFrom endpoint.table
            (resolveEndpoint schema.tables named.relation.target)) :
    keyedSchema (schema.withReference endpoint named.relation.reference)
      (before ++ named :: after) =
      keyedSchema schema (before ++ named :: after) := by
  subst hsource
  have hresolved : (resolvedSchema schema).column?
    (resolveRelation schema.tables named).relation.source =
      some column := column?_resolvedSchema_of_none hcolumn hnone
  have hjoined : joinedSchema
    (schema.withReference (resolveEndpoint schema.tables named.relation.source)
        named.relation.reference) (before ++ named :: after) =
      (joinedSchema schema (before ++ named :: after)).withReference
        (resolveRelation schema.tables named).relation.source
        (resolveRelation schema.tables named).relation.reference := by
    rw [joinedSchema, resolvedSchema_withReference, junctionRelations_withReference]
    exact linkJunctions_withReference hresolved hnone hends
  have hbefore : (joinedSchema schema (before ++ named :: after)).column?
      (resolveRelation schema.tables named).relation.source = some column :=
    column?_joinedSchema_of_none hresolved hnone _
  rw [keyedSchema, keyedSchema, keyRelations_withReference, hjoined,
    keyRelations_append _ _ _ hmany]
  exact linkForeignKeys_withReference hbefore hnone fun earlier hearlier =>
    ne_source_of_mem_keyRelations hearlier hfirst

/-! ### Where it makes a difference -/

@[simp] theorem attach_primaryKey (relation : Relation) (column : Column) :
    (attach relation column).primaryKey = column.primaryKey := by
  unfold attach
  split <;> rfl

theorem exists_column?_linkJunctions (hcolumn : schema.column? endpoint = some column)
    (relations : List NamedRelation) :
    ∃ kept, (linkEach linkJunction schema relations).value.column? endpoint = some kept ∧
      kept.reference = column.reference := by
  refine linkEach_preserves (P := fun current => ∃ kept, current.column? endpoint = some kept ∧
    kept.reference = column.reference) ⟨column, hcolumn, rfl⟩ ?_
  rintro current named - ⟨kept, hkept, hreference⟩
  refine ⟨_, column?_linkJunction hkept named, ?_⟩
  split
  · rwa [promote_reference]
  · exact hreference

/-- A column keeps its place in the primary key while foreign keys are added. -/
theorem exists_column?_linkForeignKeys (hcolumn : schema.column? endpoint = some column)
    (relations : List Relation) :
    ∃ kept, (linkEach linkForeignKey schema relations).value.column? endpoint = some kept ∧
      kept.primaryKey = column.primaryKey := by
  refine linkEach_preserves (P := fun current => ∃ kept, current.column? endpoint = some kept ∧
    kept.primaryKey = column.primaryKey) ⟨column, hcolumn, rfl⟩ ?_
  rintro current relation - ⟨kept, hkept, hprimary⟩
  refine ⟨_, column?_linkForeignKey hkept relation, ?_⟩
  split
  · rwa [attach_primaryKey]
  · exact hprimary

/-- Inline, a junction to its target puts the column into its primary key. -/
theorem exists_primaryKey_inline (hcolumn : schema.column? endpoint = some column)
    (hnone : column.reference = none) (hnamed : named ∈ junctionRelations schema stated)
    (hname : junctionName named = endpoint.table)
    (hend : named.relation.HasEnd (resolveReference schema.tables reference).target) :
    ∃ kept, (keyedSchema (schema.withReference endpoint reference) stated).column? endpoint =
      some kept ∧ kept.primaryKey = true := by
  rw [← junctionRelations_withReference schema endpoint reference] at hnamed
  have hgiven : (resolvedSchema (schema.withReference endpoint reference)).column? endpoint =
      some (column.withReference (resolveReference schema.tables reference)) := by
    rw [resolvedSchema_withReference, Schema.column?_withReference, if_pos rfl,
      column?_resolvedSchema_of_none hcolumn hnone, Option.map_some]
  obtain ⟨joined, hjoined, hreference⟩ := exists_column?_linkJunctions hgiven
    (junctionRelations (schema.withReference endpoint reference) stated)
  have hrefers : joined.refersTo (resolveReference schema.tables reference).target = true :=
    Column.refersTo_iff.mpr ⟨_, hreference, rfl⟩
  have honly := (isJoined_joinedSchema hnamed).onlyKeys _ hend
  rw [hname] at honly
  obtain ⟨table, htable, hfound⟩ := Schema.column?_eq_some.mp hjoined
  have hprimary : joined.primaryKey = true :=
    honly table htable joined (List.mem_of_find?_eq_some hfound) hrefers
  obtain ⟨kept, hkept, hsame⟩ := exists_column?_linkForeignKeys hjoined
    (keyRelations (schema.withReference endpoint reference) stated)
  exact ⟨kept, hkept, hsame.trans hprimary⟩

theorem exists_primaryKey_external (hcolumn : schema.column? endpoint = some column)
    (hnone : column.reference = none) (stated : List NamedRelation) :
    ∃ kept, (keyedSchema schema stated).column? endpoint = some kept ∧
      kept.primaryKey = column.primaryKey := by
  have hjoined : (joinedSchema schema stated).column? endpoint = some column :=
    column?_joinedSchema_of_none (column?_resolvedSchema_of_none hcolumn hnone) hnone stated
  exact exists_column?_linkForeignKeys hjoined (keyRelations schema stated)

theorem primaryKey_of_link_eq (hcolumn : schema.column? endpoint = some column)
    (hnone : column.reference = none) (hnamed : named ∈ junctionRelations schema stated)
    (hname : junctionName named = endpoint.table)
    (hend : named.relation.HasEnd (resolveReference schema.tables reference).target)
    (heq : (link (schema.withReference endpoint reference) stated).value =
      (link schema stated).value) :
    column.primaryKey = true := by
  obtain ⟨inline, hinline, hprimary⟩ := exists_primaryKey_inline hcolumn hnone hnamed hname hend
  obtain ⟨external, hexternal, hsame⟩ := exists_primaryKey_external hcolumn hnone stated
  have hfound : (keyedSchema (schema.withReference endpoint reference) stated).column? endpoint =
      (keyedSchema schema stated).column? endpoint := congrArg (·.column? endpoint) heq
  rw [hinline, hexternal, Option.some.injEq] at hfound
  rw [← hsame, ← hfound, hprimary]

/-! ### Columns that are added -/

section Added

variable {R : Column → Column → Prop} {Q : Column → Prop} {columns : List Column} {name : String}

/-- Columns go on growing with a junction if what it does to them is allowed. -/
theorem extends_columnsOf_linkJunction (h : Extends R Q columns (schema.columnsOf name))
    (hR : ∀ x y, R x y → R x (promote named.relation y))
    (hQ : ∀ y, Q y → Q (promote named.relation y))
    (hnew : ∀ endpoint, ¬ schema.RefersFrom name endpoint →
      Q (junctionColumn schema named.relation endpoint)) :
    Extends R Q columns ((linkJunction schema named).value.columnsOf name) := by
  rw [columnsOf_linkJunction]
  split
  · refine (h.map hR hQ).append fun column hmissing => ?_
    obtain ⟨endpoint, -, hlack, rfl⟩ := mem_missingColumns_iff.mp hmissing
    exact hnew endpoint (any_refersTo_eq_false.mp hlack)
  · exact h

theorem extends_columnsOf_linkForeignKey (h : Extends R Q columns (schema.columnsOf name))
    (hR : ∀ x y, R x y → R x (attach relation y)) (hQ : ∀ y, Q y → Q (attach relation y))
    (hnew : Q (foreignKey schema relation)) :
    Extends R Q columns ((linkForeignKey schema relation).value.columnsOf name) := by
  rw [columnsOf_linkForeignKey]
  split
  · unfold keyTable
    split
    · exact h.updateFirst (fun x y _ => hR x y) fun y _ => hQ y
    · exact h.append (List.forall_mem_singleton.mpr hnew)
  · exact h

end Added

theorem getElem?_columnsOf_linkForeignKeys {name : String} {i : Nat} {target : Endpoint}
    (hkey : (schema.columnsOf name)[i]? = some column) (hrefers : column.refersTo target = true)
    (relations : List Relation) :
    ((linkEach linkForeignKey schema relations).value.columnsOf name)[i]? = some column := by
  refine linkEach_preserves (P := fun current => (current.columnsOf name)[i]? = some column) hkey ?_
  intro current relation _ hcurrent
  rw [columnsOf_linkForeignKey]
  split
  · unfold keyTable
    split
    · exact getElem?_updateFirst_of_fixed hcurrent
        (attach_of_isSome (Column.isSome_of_refersTo hrefers))
    · have hlt : i < (current.columnsOf name).length := (List.getElem?_eq_some_iff.mp hcurrent).1
      exact (List.getElem?_append_left hlt).trans hcurrent
  · exact hcurrent

/-- External, a junction to the target adds a column for it if none refers to it yet. -/
theorem exists_key_external {target : Endpoint} (hnamed : named ∈ junctionRelations schema stated)
    (hend : named.relation.HasEnd target)
    (hnone : ¬ (resolvedSchema schema).RefersFrom (junctionName named) target) :
    ∃ (i : Nat) (key : Column),
      ((resolvedSchema schema).columnsOf (junctionName named))[i]? = none ∧
      ((keyedSchema schema stated).columnsOf (junctionName named))[i]? = some key ∧
      key.primaryKey = true ∧ key.refersTo target = true := by
  obtain ⟨table, htable, key, hkey, hprimary, hrefers⟩ :=
    (isJoined_joinedSchema hnamed).joins target hend
  rw [← Schema.columnsOf_of_table? htable] at hkey
  obtain ⟨i, hi⟩ := List.mem_iff_getElem?.mp hkey
  -- so far nothing but a junction has added or changed a column
  have hgrown : Extends (fun before after : Column => after.reference = before.reference)
    (fun _ => True)
      ((resolvedSchema schema).columnsOf (junctionName named))
      ((joinedSchema schema stated).columnsOf (junctionName named)) := by
    refine linkEach_preserves (P := fun current => Extends
      (fun before after : Column => after.reference = before.reference) (fun _ => True)
      ((resolvedSchema schema).columnsOf (junctionName named))
      (current.columnsOf (junctionName named))) ?_ ?_
    · exact Extends.self (R := fun before after : Column => after.reference = before.reference)
        (fun _ => rfl) _
    · intro current other _ h
      refine extends_columnsOf_linkJunction h (fun before after hsame => ?_) (fun _ _ => trivial)
        fun _ _ => trivial
      rw [promote_reference, hsame]
  rcases hgrown.getElem?_cases hi with ⟨before, hbefore, hsame⟩ | ⟨hnew, -⟩
  · refine absurd ⟨before, List.mem_of_getElem? hbefore, ?_⟩ hnone
    rwa [Column.refersTo, ← hsame]
  · exact ⟨i, key, hnew, getElem?_columnsOf_linkForeignKeys hi hrefers _, hprimary, hrefers⟩

/-- The column has a reference, and one in the primary key has it to another column. -/
def NoKeyTo (target : Endpoint) (column : Column) : Prop :=
  column.reference.isSome = true ∧ (column.primaryKey = true → column.refersTo target = false)

/-- Where a column refers to the target, no column is added that does so in the primary key. -/
theorem extends_keyedSchema_of_refersFrom {name : String} {target : Endpoint}
    (hrefers : (resolvedSchema schema).RefersFrom name target) (stated : List NamedRelation) :
    Extends (fun _ _ : Column => True) (NoKeyTo target)
      ((resolvedSchema schema).columnsOf name) ((keyedSchema schema stated).columnsOf name) := by
  -- a junction adds columns for other endpoints only, as long as a column refers to the target
  have hjoined : Extends (fun _ _ : Column => True)
        (fun column => column.reference.isSome = true ∧ column.refersTo target = false)
        ((resolvedSchema schema).columnsOf name) ((joinedSchema schema stated).columnsOf name) ∧
      (joinedSchema schema stated).RefersFrom name target := by
    refine linkEach_preserves (P := fun current => Extends (fun _ _ : Column => True)
        (fun column => column.reference.isSome = true ∧ column.refersTo target = false)
        ((resolvedSchema schema).columnsOf name) (current.columnsOf name) ∧
      current.RefersFrom name target) ⟨Extends.self (fun _ => trivial) _, hrefers⟩ ?_
    rintro current named - ⟨hgrown, hcurrent⟩
    refine ⟨extends_columnsOf_linkJunction hgrown (fun _ _ _ => trivial) ?_ ?_,
      (refersFrom_linkJunction ..).mpr (.inl hcurrent)⟩
    · rintro column ⟨hsome, hother⟩
      exact ⟨by rwa [promote_reference], by rwa [promote_refersTo]⟩
    · intro endpoint hlack
      refine ⟨rfl, ?_⟩
      rw [← Bool.not_eq_true, refersTo_junctionColumn]
      rintro rfl
      exact hlack hcurrent
  -- a foreign key is not in the primary key, and what has a reference already keeps it
  refine linkEach_preserves (P := fun current => Extends (fun _ _ : Column => True) (NoKeyTo target)
    ((resolvedSchema schema).columnsOf name) (current.columnsOf name))
    (hjoined.1.weaken fun column hadded => ⟨hadded.1, fun _ => hadded.2⟩) ?_
  intro current relation _ hgrown
  refine extends_columnsOf_linkForeignKey hgrown (fun _ _ _ => trivial) ?_ ?_
  · rintro column ⟨hsome, hother⟩
    rw [attach_of_isSome hsome]
    exact ⟨hsome, hother⟩
  · exact ⟨rfl, fun hprimary => absurd hprimary Bool.false_ne_true⟩

theorem refersFrom_withReference (hcolumn : schema.column? endpoint = some column) :
    (schema.withReference endpoint reference).RefersFrom endpoint.table reference.target := by
  have hgiven : (schema.withReference endpoint reference).column? endpoint =
      some (column.withReference reference) := by
    rw [Schema.column?_withReference, if_pos rfl, hcolumn, Option.map_some]
  rw [Schema.column?_eq_find?] at hgiven
  exact ⟨_, List.mem_of_find?_eq_some hgiven, Column.refersTo_withReference.mpr rfl⟩

theorem length_columnsOf_withReference (schema : Schema) (endpoint : Endpoint)
    (reference : Reference) (name : String) :
    ((schema.withReference endpoint reference).columnsOf name).length =
      (schema.columnsOf name).length := by
  have hfixed : ∀ table : Table,
      (table.updateColumn endpoint.column (·.withReference reference)).columns.length =
        table.columns.length := fun table => length_updateFirst
  unfold Schema.columnsOf Schema.withReference
  by_cases hname : name = endpoint.table
  · rw [hname, Schema.table?_updateTable_self (Table.updateColumn_name _ _)]
    cases schema.table? endpoint.table with
    | none => rfl
    | some table => exact hfixed table
  · rw [Schema.table?_updateTable_of_ne (Table.updateColumn_name _ _) hname]

/-- If the linked schemas are equal, then some other column refers to the target of a junction. -/
theorem refersFrom_of_link_eq (hcolumn : schema.column? endpoint = some column)
    (hnamed : named ∈ junctionRelations schema stated) (hname : junctionName named = endpoint.table)
    (hend : named.relation.HasEnd (resolveReference schema.tables reference).target)
    (heq : (link (schema.withReference endpoint reference) stated).value =
      (link schema stated).value) :
    (resolvedSchema schema).RefersFrom endpoint.table
      (resolveReference schema.tables reference).target := by
  by_contra hnone
  rw [← hname] at hnone
  obtain ⟨i, key, hadded, hkey, hprimary, hrefers⟩ := exists_key_external hnamed hend hnone
  rw [hname] at hadded hkey
  have hresolved : (resolvedSchema schema).column? endpoint =
      some (resolveColumn schema.tables column) := by
    rw [column?_resolvedSchema, hcolumn, Option.map_some]
  have hinline : Extends (fun _ _ : Column => True)
      (NoKeyTo (resolveReference schema.tables reference).target)
      ((resolvedSchema (schema.withReference endpoint reference)).columnsOf endpoint.table)
      ((keyedSchema (schema.withReference endpoint reference) stated).columnsOf
        endpoint.table) := by
    refine extends_keyedSchema_of_refersFrom ?_ stated
    rw [resolvedSchema_withReference]
    exact refersFrom_withReference hresolved
  have hsame : (keyedSchema (schema.withReference endpoint reference) stated).columnsOf
      endpoint.table = (keyedSchema schema stated).columnsOf endpoint.table :=
    congrArg (·.columnsOf endpoint.table) heq
  rw [hsame, resolvedSchema_withReference] at hinline
  rcases hinline.getElem?_cases hkey with ⟨before, hbefore, -⟩ | ⟨-, -, hother⟩
  · have hlength := length_columnsOf_withReference (resolvedSchema schema) endpoint
      (resolveReference schema.tables reference) endpoint.table
    have hlt := (List.getElem?_eq_some_iff.mp hbefore).1
    rw [List.getElem?_eq_none_iff] at hadded
    omega
  · rw [hother hprimary] at hrefers
    contradiction

/-! ### All together -/

/-- **When an inline foreign key is linked as an external one.**  It is if for every many-to-many
relation whose junction is the table of the column and which the target is an end of, the column is
in the primary key anyway and another column refers to the target. -/
theorem inline_eq_external_iff {table : Table} {before after : List NamedRelation}
    (hnames : (schema.tables.map (·.name)).Nodup) (hcolumns : schema.DistinctColumns)
    (htable : table ∈ schema.tables) (hcolumn : column ∈ table.columns)
    (hnone : column.reference = none) (hstated : stated = before ++ named :: after)
    (hmany : named.relation.isManyToMany = false)
    (hsource : resolveEndpoint schema.tables named.relation.source = ⟨table.name, column.name⟩)
    (hfirst : ∀ earlier ∈ before, earlier.relation.isManyToMany = false →
      resolveEndpoint schema.tables earlier.relation.source ≠ ⟨table.name, column.name⟩) :
    (link (schema.withReference ⟨table.name, column.name⟩ named.relation.reference) stated).value =
        (link schema stated).value ↔
      ∀ other ∈ junctionRelations schema stated, junctionName other = table.name →
        other.relation.HasEnd (resolveEndpoint schema.tables named.relation.target) →
          column.primaryKey = true ∧ (resolvedSchema schema).RefersFrom table.name
            (resolveEndpoint schema.tables named.relation.target) := by
  have hfound : schema.column? ⟨table.name, column.name⟩ = some column :=
    Schema.column?_eq_some.mpr ⟨table, find?_eq_some_of_nodup hnames htable,
      find?_eq_some_of_nodup (hcolumns table htable) hcolumn⟩
  constructor
  · intro heq other hother hname hend
    have htarget : other.relation.HasEnd
        (resolveReference schema.tables named.relation.reference).target := hend
    exact ⟨primaryKey_of_link_eq hfound hnone hother hname htarget heq,
      refersFrom_of_link_eq hfound hother hname htarget heq⟩
  · intro hends
    rw [hstated] at hends ⊢
    rw [link_value, link_value, resolvedRelations_withReference,
      keyedSchema_withReference hfound hnone hmany hsource hfirst hends]

/-- Two tables and one for the columns of a junction between them. -/
def junctionKeyExample (columns : List Column) : Schema where
  tables :=
    [{ name := "a", columns := [{ name := "id", type := "int" }] },
     { name := "b", columns := [{ name := "id", type := "int" }] },
     { name := "ab", columns }]

/-- A foreign key of the junction table. -/
def junctionKey : NamedRelation :=
  ⟨⟨⟨"ab", "a_id"⟩, ⟨"a", "id"⟩, .manyToOne, none, none⟩, none⟩

/-- The relation that makes the table a junction. -/
def junctionOfKey : NamedRelation :=
  ⟨⟨⟨"a", "id"⟩, ⟨"b", "id"⟩, .manyToMany, none, none⟩, some "ab"⟩

/-- **An inline foreign key is not always linked as an external one**, even where no two names are
alike: the junction finds the one but not the other. -/
theorem inline_ne_external_of_junction :
    let column : Column := { name := "a_id", type := "int" }
    let schema := junctionKeyExample [column]
    (schema.tables.map (·.name)).Nodup ∧ schema.DistinctColumns ∧
      schema.column? ⟨"ab", "a_id"⟩ = some column ∧ column.reference = none ∧
      junctionKey.relation.isManyToMany = false ∧ junctionKey.relation.source = ⟨"ab", "a_id"⟩ ∧
      (link (schema.withReference ⟨"ab", "a_id"⟩ junctionKey.relation.reference)
          [junctionKey, junctionOfKey]).value ≠
        (link schema [junctionKey, junctionOfKey]).value := by
  intro column schema
  have hcolumns : (link (schema.withReference ⟨"ab", "a_id"⟩ junctionKey.relation.reference)
        [junctionKey, junctionOfKey]).value.columnsOf "ab" ≠
      (link schema [junctionKey, junctionOfKey]).value.columnsOf "ab" := by decide
  refine ⟨by decide, by decide, by decide, rfl, rfl, rfl, fun heq => hcolumns ?_⟩
  rw [heq]

/-- With another foreign key to the same column the junction does not tell them apart. -/
theorem inline_eq_external_of_second_key :
    let column : Column := { name := "a_id", type := "int", primaryKey := true }
    let second : Column :=
      { name := "first_id", type := "int", reference := some ⟨"a", "id", none, none, none⟩ }
    let schema := junctionKeyExample [column, second]
    (schema.tables.map (·.name)).Nodup ∧ schema.DistinctColumns ∧
      (link (schema.withReference ⟨"ab", "a_id"⟩ junctionKey.relation.reference)
          [junctionKey, junctionOfKey]).value =
        (link schema [junctionKey, junctionOfKey]).value := by
  intro column second schema
  have hnames : (schema.tables.map (·.name)).Nodup := by decide
  have hcolumns : schema.DistinctColumns := by decide
  have htable : { name := "ab", columns := [column, second] } ∈ schema.tables := by decide
  have hcolumn : column ∈ [column, second] := List.mem_cons_self
  have hstated : [junctionKey, junctionOfKey] = [] ++ junctionKey :: [junctionOfKey] := rfl
  have hsource : resolveEndpoint schema.tables junctionKey.relation.source = ⟨"ab", "a_id"⟩ := by
    decide
  refine ⟨hnames, hcolumns, (inline_eq_external_iff hnames hcolumns htable hcolumn rfl hstated rfl
    hsource (List.forall_mem_nil _)).mpr ?_⟩
  decide

end Dbml.Linking
