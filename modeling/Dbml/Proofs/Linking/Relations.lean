import Dbml.Proofs.Linking.Frame

/-!
# The relations of a linked schema

The relations of a linked schema are those that the source states, in the same order, with two
changes:

* the names of their tables are resolved.  What a name stands for is the relation `StandsFor`, and
  `resolveName_eq_iff` says that resolving finds just that;
* a relation is left out if one between the same columns comes earlier (`withoutRepeats`), so that
  of all relations between two columns the first one stays (`exists_first`).

What has been resolved is no alias any more, unless a table bears it as its name
(`resolveName_ne_of_isOnlyAlias`), and the passes that add references only add resolved ones
(`everyReference_link`).
-/

namespace Dbml

namespace Linking

variable {schema : Schema} {stated : List NamedRelation} {named : NamedRelation}
  {relation : Relation} {relations : List Relation} {tables : List Table} {name other : String}

/-! ### Names -/

/-- What a name stands for: its own table, else the last table that has it for an alias, and itself
if there is none. -/
inductive StandsFor (tables : List Table) (name : String) : String → Prop
  | table (hname : ∃ table ∈ tables, table.name = name) : StandsFor tables name name
  | aliased {before after : List Table} {last : Table}
      (hname : ∀ table ∈ tables, table.name ≠ name) (htables : tables = before ++ last :: after)
      (hlast : last.aliasName = some name) (hafter : ∀ table ∈ after, table.aliasName ≠ some name) :
      StandsFor tables name last.name
  | nothing (hname : ∀ table ∈ tables, table.name ≠ name)
      (halias : ∀ table ∈ tables, table.aliasName ≠ some name) : StandsFor tables name name

theorem standsFor_resolveName (tables : List Table) (name : String) :
    StandsFor tables name (resolveName tables name) := by
  unfold resolveName
  split
  · rename_i hany
    exact .table (by simpa using hany)
  · rename_i hany
    have hname : ∀ table ∈ tables, table.name ≠ name := by simpa using hany
    cases hlast : tables.reverse.find? (·.aliasName = some name) with
    | none => exact .nothing hname (by simpa using hlast)
    | some last =>
        obtain ⟨halias, after, before, hreverse, hafter⟩ := List.find?_eq_some_iff_append.mp hlast
        have htables : tables = before.reverse ++ last :: after.reverse := by
          rw [← List.reverse_reverse tables, hreverse]
          simp
        exact .aliased hname htables (of_decide_eq_true halias) (by simpa using hafter)

theorem StandsFor.eq_resolveName (h : StandsFor tables name other) :
    resolveName tables name = other := by
  unfold resolveName
  cases h with
  | table hname => rw [if_pos (by simpa using hname)]
  | aliased hname htables hlast hafter =>
      rename_i before after last
      have hfind : tables.reverse.find? (·.aliasName = some name) = some last := by
        refine List.find?_eq_some_iff_append.mpr
          ⟨by simpa using hlast, after.reverse, before.reverse, ?_, by simpa using hafter⟩
        rw [htables]
        simp
      rw [if_neg (by simpa using hname), hfind]
  | nothing hname halias =>
      have hfind : tables.reverse.find? (·.aliasName = some name) = none := by simpa using halias
      rw [if_neg (by simpa using hname), hfind]

theorem resolveName_eq_iff : resolveName tables name = other ↔ StandsFor tables name other :=
  ⟨fun h => h ▸ standsFor_resolveName tables name, StandsFor.eq_resolveName⟩

/-- The name is an alias and not the name of a table. -/
def IsOnlyAlias (tables : List Table) (name : String) : Prop :=
  (∃ table ∈ tables, table.aliasName = some name) ∧ ∀ table ∈ tables, table.name ≠ name

theorem resolveName_ne_of_isOnlyAlias (h : IsOnlyAlias tables name) (other : String) :
    resolveName tables other ≠ name := by
  intro heq
  obtain ⟨⟨table, htable, halias⟩, hname⟩ := h
  cases resolveName_eq_iff.mp heq with
  | table hother =>
      obtain ⟨table, htable, hsame⟩ := hother
      exact hname table htable hsame
  | aliased _ htables =>
      exact hname _ (htables ▸ List.mem_append_right _ List.mem_cons_self) rfl
  | nothing _ hnone => exact hnone table htable halias

/-! ### Relations between the same columns -/

/-- The relations of a list without those between the same columns as an earlier one. -/
def withoutRepeats (relations : List Relation) : List Relation :=
  (relations.zipIdx.filter fun (relation, index) =>
    !(relations.take index).any (·.sameEndpoints relation)).map (·.1)

theorem sameEndpoints_iff {a b : Relation} :
    a.sameEndpoints b = true ↔ a.source = b.source ∧ a.target = b.target := by
  simp [Relation.sameEndpoints]

/-- A relation that repeats one of a list joins no columns that the list does not join. -/
theorem any_sameEndpoints_append_of_repeats {first : Relation}
    (h : relations.any (·.sameEndpoints first) = true) (relation : Relation) :
    (relations ++ [first]).any (·.sameEndpoints relation) =
      relations.any (·.sameEndpoints relation) := by
  rw [List.any_append, List.any_cons, List.any_nil, Bool.or_false]
  cases hsame : first.sameEndpoints relation with
  | false => rw [Bool.or_false]
  | true =>
      obtain ⟨other, hother, hfirst⟩ := List.any_eq_true.mp h
      have hboth : other.sameEndpoints relation = true := by
        rw [sameEndpoints_iff] at hfirst hsame ⊢
        exact ⟨hfirst.1.trans hsame.1, hfirst.2.trans hsame.2⟩
      rw [List.any_eq_true.mpr ⟨other, hother, hboth⟩, Bool.or_true]

/-- Behind the relations `earlier`, of which those in `kept` were kept, just the repeats are
dropped: `kept` joins the same columns as `earlier`. -/
theorem dropDuplicates_eq {earlier kept : List Relation}
    (h : ∀ relation, kept.any (·.sameEndpoints relation) = earlier.any (·.sameEndpoints relation)) :
    (dropDuplicates kept relations).value =
      kept ++ ((relations.zipIdx earlier.length).filter fun (relation, index) =>
        !((earlier ++ relations).take index).any (·.sameEndpoints relation)).map (·.1) := by
  induction relations generalizing earlier kept with
  | nil => simp [dropDuplicates]
  | cons first rest ih =>
      have hlength : earlier.length + 1 = (earlier ++ [first]).length := by simp
      have hall : earlier ++ first :: rest = earlier ++ [first] ++ rest := List.append_cons ..
      have hbefore : (earlier ++ first :: rest).take earlier.length = earlier := List.take_left
      rw [dropDuplicates, List.zipIdx_cons, List.filter_cons, hlength]
      cases hrepeats : kept.any (·.sameEndpoints first) with
      | true =>
          have hkept : ∀ relation, kept.any (·.sameEndpoints relation) =
              (earlier ++ [first]).any (·.sameEndpoints relation) := fun relation => by
            rw [any_sameEndpoints_append_of_repeats (h first ▸ hrepeats), h relation]
          rw [if_pos rfl, if_neg (by simp [hbefore, ← h first, hrepeats]), hall]
          exact ih hkept
      | false =>
          have hkept : ∀ relation, (kept ++ [first]).any (·.sameEndpoints relation) =
              (earlier ++ [first]).any (·.sameEndpoints relation) := fun relation => by
            rw [List.any_append, List.any_append, h relation]
          rw [if_neg Bool.false_ne_true, if_pos (by simp [hbefore, ← h first, hrepeats]), hall,
            ih hkept, List.map_cons, List.append_assoc, List.singleton_append]

theorem keptRelations_eq (relations : List Relation) :
    keptRelations relations = withoutRepeats relations := by
  have hnil : ∀ relation, ([] : List Relation).any (·.sameEndpoints relation) =
      ([] : List Relation).any (·.sameEndpoints relation) := fun _ => rfl
  exact dropDuplicates_eq hnil

theorem mem_withoutRepeats : relation ∈ withoutRepeats relations ↔
    ∃ index : Nat, relations[index]? = some relation ∧
      (relations.take index).any (·.sameEndpoints relation) = false := by
  simp only [withoutRepeats, List.mem_map, List.mem_filter, List.mem_zipIdx_iff_getElem?,
    Bool.not_eq_true', Prod.exists]
  constructor
  · rintro ⟨_, index, ⟨hindex, hfirst⟩, rfl⟩
    exact ⟨index, hindex, hfirst⟩
  · rintro ⟨index, hindex, hfirst⟩
    exact ⟨relation, index, ⟨hindex, hfirst⟩, rfl⟩

theorem pairwise_withoutRepeats (relations : List Relation) :
    (withoutRepeats relations).Pairwise fun a b => (a.source, a.target) ≠ (b.source, b.target) := by
  have hplaces : relations.zipIdx.Pairwise fun a b => a.2 < b.2 := by
    rw [← List.pairwise_map, List.zipIdx_map_snd]
    exact List.pairwise_lt_range' 1
  refine List.pairwise_map.mpr ((hplaces.filter _).imp_of_mem ?_)
  rintro ⟨a, i⟩ ⟨b, j⟩ ha hb (hlt : i < j) heq
  simp only [List.mem_filter, List.mem_zipIdx_iff_getElem?, Bool.not_eq_true'] at ha hb
  -- the earlier of the two would have been found before the later one
  have hbefore : a ∈ relations.take j :=
    List.mem_of_getElem? ((List.getElem?_take_of_lt hlt).trans ha.1)
  have hdiffer := List.any_eq_false.mp hb.2 a hbefore
  rw [Prod.mk.injEq] at heq
  exact hdiffer (sameEndpoints_iff.mpr heq)

theorem exists_first (h : relation ∈ relations) :
    ∃ first ∈ withoutRepeats relations,
      relations.find? (·.sameEndpoints relation) = some first := by
  obtain ⟨first, hfirst⟩ : ∃ first, relations.find? (·.sameEndpoints relation) = some first :=
    Option.isSome_iff_exists.mp
      (List.find?_isSome.mpr ⟨relation, h, sameEndpoints_iff.mpr ⟨rfl, rfl⟩⟩)
  refine ⟨first, ?_, hfirst⟩
  obtain ⟨hsame, before, after, hrelations, hbefore⟩ := List.find?_eq_some_iff_append.mp hfirst
  have hnone : ((relations.take before.length).any (·.sameEndpoints first)) = false := by
    rw [hrelations, List.take_left, List.any_eq_false]
    intro other hother hrepeats
    have hdiffer := hbefore other hother
    rw [sameEndpoints_iff] at hrepeats hsame
    rw [sameEndpoints_iff.mpr ⟨hrepeats.1.trans hsame.1, hrepeats.2.trans hsame.2⟩] at hdiffer
    contradiction
  refine mem_withoutRepeats.mpr ⟨before.length, ?_, hnone⟩
  rw [hrelations, List.getElem?_append_right (Nat.le_refl _), Nat.sub_self, List.getElem?_cons_zero]

/-! ### References -/

end Linking

/-- What all columns of the schema refer to. -/
def Schema.EveryReference (P : Reference → Prop) (schema : Schema) : Prop :=
  ∀ table ∈ schema.tables, ∀ column ∈ table.columns, ∀ r ∈ column.reference, P r

namespace Linking

variable {P : Reference → Prop}

theorem everyReference_resolvedSchema
    (h : ∀ r : Reference, P { r with table := resolveName schema.tables r.table }) :
    (resolvedSchema schema).EveryReference P := by
  intro table htable column hcolumn r hr
  obtain ⟨table, -, rfl⟩ := List.mem_map.mp htable
  obtain ⟨column, -, rfl⟩ := List.mem_map.mp hcolumn
  obtain ⟨r, -, rfl⟩ := Option.map_eq_some_iff.mp hr
  exact h r

/-- The references that a relation adds to its junction table are to its endpoints. -/
theorem everyReference_linkJunction (h : schema.EveryReference P)
    (hnew : ∀ endpoint, endpoint = named.relation.source ∨ endpoint = named.relation.target →
      ∀ r ∈ (junctionColumn schema named.relation endpoint).reference, P r) :
    (linkJunction schema named).value.EveryReference P := by
  have htables : ∀ table ∈ (schema.withTable (junctionName named)).tables,
      ∀ column ∈ table.columns, ∀ r ∈ column.reference, P r := by
    unfold Schema.withTable
    split
    · exact h
    · exact List.forall_mem_append.mpr ⟨h, by simp⟩
  rw [linkJunction_value]
  refine forall_mem_updateFirst htables fun table _ hcolumns => ?_
  refine List.forall_mem_append.mpr ⟨List.forall_mem_map.mpr fun column hcolumn => ?_, ?_⟩
  · rw [promote_reference]
    exact hcolumns column hcolumn
  · intro column hcolumn
    obtain ⟨endpoint, hendpoint, rfl⟩ := List.mem_map.mp hcolumn
    exact hnew endpoint (by simpa using (List.mem_filter.mp hendpoint).1)

theorem everyReference_linkForeignKey (h : schema.EveryReference P) (hnew : P relation.reference) :
    (linkForeignKey schema relation).value.EveryReference P := by
  rw [linkForeignKey_value]
  refine forall_mem_updateFirst h fun table _ hcolumns => ?_
  unfold keyTable
  split
  · refine forall_mem_updateFirst hcolumns fun column _ hreference r hr => ?_
    unfold attach at hr
    split at hr
    · exact hreference r hr
    · cases hr
      exact hnew
  · refine List.forall_mem_append.mpr ⟨hcolumns, List.forall_mem_singleton.mpr ?_⟩
    rintro r ⟨⟩
    exact hnew

/-- All columns of the linked schema refer to tables by resolved names. -/
theorem everyReference_link (schema : Schema) (stated : List NamedRelation) :
    (link schema stated).value.EveryReference fun r =>
      ∃ written, r.table = resolveName schema.tables written := by
  have hjoined : (joinedSchema schema stated).EveryReference fun r =>
      ∃ written, r.table = resolveName schema.tables written := by
    refine linkEach_preserves (everyReference_resolvedSchema fun r => ⟨r.table, rfl⟩) ?_
    intro current named hnamed h
    obtain ⟨written, -, rfl⟩ := List.mem_map.mp (List.mem_filter.mp hnamed).1
    refine everyReference_linkJunction h ?_
    rintro endpoint (rfl | rfl) r ⟨⟩
    · exact ⟨written.relation.source.table, rfl⟩
    · exact ⟨written.relation.target.table, rfl⟩
  have hkeyed : (keyedSchema schema stated).EveryReference fun r =>
      ∃ written, r.table = resolveName schema.tables written := by
    refine linkEach_preserves hjoined fun current relation hrelation h => ?_
    obtain ⟨named, hnamed, rfl⟩ := List.mem_map.mp hrelation
    obtain ⟨written, -, rfl⟩ := List.mem_map.mp (List.mem_filter.mp hnamed).1
    exact everyReference_linkForeignKey h ⟨written.relation.target.table, rfl⟩
  exact hkeyed

/-! ### All together -/

/-- A relation of the linked schema names its tables as they are resolved. -/
theorem exists_named_of_mem_link (h : relation ∈ (link schema stated).value.relations) :
    ∃ named ∈ stated, relation = (resolveRelation schema.tables named).relation := by
  obtain ⟨resolved, hresolved, rfl⟩ := List.mem_map.mp (mem_of_mem_keptRelations h)
  obtain ⟨named, hnamed, rfl⟩ := List.mem_map.mp hresolved
  exact ⟨named, hnamed, rfl⟩

/-- **The relations of a linked schema** are the stated ones with the names of their tables
resolved, in their order and without those that repeat an earlier one.  So no two of them join the
same columns, and the first of the relations between two columns is among them as it was stated.
The columns that were there refer to what they referred to, by resolved names, and nothing names a
table by what is only an alias. -/
theorem relations_resolved_and_distinct (schema : Schema) (stated : List NamedRelation) :
    (∀ name other, resolveName schema.tables name = other ↔ StandsFor schema.tables name other) ∧
    (link schema stated).value.relations =
      withoutRepeats ((resolvedRelations schema stated).map (·.relation)) ∧
    ((link schema stated).value.relations.Pairwise fun a b =>
      (a.source, a.target) ≠ (b.source, b.target)) ∧
    (∀ relation ∈ (resolvedRelations schema stated).map (·.relation),
      ∃ first ∈ (link schema stated).value.relations,
        ((resolvedRelations schema stated).map (·.relation)).find? (·.sameEndpoints relation) =
          some first) ∧
    (∀ (i j : Nat) (table : Table) (column : Column) (r : Reference),
      schema.tables[i]? = some table → table.columns[j]? = some column →
      column.reference = some r →
      ∃ table' column', (link schema stated).value.tables[i]? = some table' ∧
        table'.columns[j]? = some column' ∧
        column'.reference = some { r with table := resolveName schema.tables r.table }) ∧
    ∀ name, IsOnlyAlias schema.tables name →
      (∀ relation ∈ (link schema stated).value.relations,
        relation.source.table ≠ name ∧ relation.target.table ≠ name) ∧
      ∀ table ∈ (link schema stated).value.tables, ∀ column ∈ table.columns,
        ∀ r ∈ column.reference, r.table ≠ name := by
  have hrelations : (link schema stated).value.relations =
      withoutRepeats ((resolvedRelations schema stated).map (·.relation)) := keptRelations_eq _
  refine ⟨fun _ _ => resolveName_eq_iff, hrelations, ?_, ?_, ?_, ?_⟩
  · rw [hrelations]
    exact pairwise_withoutRepeats _
  · intro relation hrelation
    rw [hrelations]
    exact exists_first hrelation
  · intro i j table column r htable hcolumn hr
    obtain ⟨table', htable', hgrows⟩ := (grows_link schema stated).tables.getElem? htable
    obtain ⟨column', hcolumn', hkept⟩ := hgrows.columns.getElem? hcolumn
    exact ⟨table', column', htable', hcolumn', hkept.resolved r hr⟩
  · intro name halias
    refine ⟨fun relation hrelation => ?_, fun table htable column hcolumn r hr => ?_⟩
    · obtain ⟨named, -, rfl⟩ := exists_named_of_mem_link hrelation
      exact ⟨resolveName_ne_of_isOnlyAlias halias _, resolveName_ne_of_isOnlyAlias halias _⟩
    · obtain ⟨written, hwritten⟩ :=
        everyReference_link schema stated table htable column hcolumn r hr
      rw [hwritten]
      exact resolveName_ne_of_isOnlyAlias halias written

/-- Two relations join the same columns once the alias in the first one is resolved: the first one
stays, with its own cardinality and action. -/
theorem relations_resolved_and_distinct_of_alias :
    let stated : List NamedRelation :=
      [⟨⟨⟨"tags", "owner"⟩, ⟨"U", "id"⟩, .manyToOne, none, some .cascade⟩, none⟩,
       ⟨⟨⟨"tags", "owner"⟩, ⟨"users", "id"⟩, .oneToOne, none, none⟩, none⟩]
    IsOnlyAlias junctionExample.tables "U" ∧
      ⟨⟨"tags", "owner"⟩, ⟨"users", "id"⟩, .manyToOne, none, some .cascade⟩ ∈
        (link junctionExample stated).value.relations ∧
      ∀ relation ∈ (link junctionExample stated).value.relations,
        relation.source.table ≠ "U" ∧ relation.target.table ≠ "U" := by
  intro stated
  have halias : IsOnlyAlias junctionExample.tables "U" := by
    refine ⟨⟨_, List.mem_cons_self, rfl⟩, ?_⟩
    simp [junctionExample]
  obtain ⟨-, -, -, hfirst, -, hnames⟩ := relations_resolved_and_distinct junctionExample stated
  obtain ⟨first, hmem, hfind⟩ := hfirst
    ⟨⟨"tags", "owner"⟩, ⟨"users", "id"⟩, .oneToOne, none, none⟩ (.tail _ (.head _))
  cases hfind
  exact ⟨halias, hmem, (hnames "U" halias).1⟩

end Linking

end Dbml
