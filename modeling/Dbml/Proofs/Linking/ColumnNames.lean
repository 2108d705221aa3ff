import Dbml.Proofs.Linking.Columns
import Dbml.Proofs.Linking.Relations

/-!
# When the names of columns stay distinct

Of the passes of linking only that over the junction tables can give a table two columns of one
name: a foreign key is added where there is no column of its name, but a junction column where no
column *refers* to its endpoint, and its name is made from that endpoint (`keyName`).

* `distinctColumns_linkForeignKey`: foreign keys keep names distinct and do not make them so.
* `distinctColumns_linkJunction`: a junction keeps names distinct just if the columns that it adds
  have new names (`Schema.Fresh`).
* `forall_fresh_iff`: so it is for all relations just if it can be read off the schema that they
  start from (`KeysApart`).  What a table refers to and which names it has behind some of the
  relations is settled by those relations (`refersFrom_linkJunctions`,
  `mem_columnNames_linkJunctions`).

`distinctColumns_link` puts the three together.
-/

namespace Dbml

/-- The name of a column of a junction table that refers to the endpoint. -/
def Linking.keyName (endpoint : Endpoint) : String :=
  endpoint.table ++ "_" ++ endpoint.column

open Linking

namespace Schema

/-- The names of the columns of the first table of the name. -/
def columnNames (schema : Schema) (name : String) : List String :=
  (schema.columnsOf name).map (·.name)

/-- The relation has the endpoint at an end, and no column of its junction table refers to it. -/
def Lacks (schema : Schema) (named : NamedRelation) (endpoint : Endpoint) : Prop :=
  named.relation.HasEnd endpoint ∧ ¬ schema.RefersFrom (junctionName named) endpoint

/-- The columns that the relation adds to its junction table have names that are distinct and
new. -/
structure Fresh (schema : Schema) (named : NamedRelation) : Prop where
  columns : ∀ endpoint, schema.Lacks named endpoint →
    keyName endpoint ∉ schema.columnNames (junctionName named)
  ends : schema.Lacks named named.relation.source → schema.Lacks named named.relation.target →
    keyName named.relation.source ≠ keyName named.relation.target

end Schema

namespace Linking

variable {schema : Schema} {named : NamedRelation} {relation : Relation}
  {relations : List NamedRelation}
  {table : Table} {endpoint other : Endpoint} {name : String}

/-! ### Updates that add names -/

/-- Where an update only makes a property harder to have, all elements have it afterwards just if
they had it before and the one that is changed has it still. -/
theorem forall_mem_updateFirst_iff {α : Type} {p : α → Bool} {f : α → α} {P : α → Prop} {l : List α}
    (hback : ∀ x, P (f x) → P x) :
    (∀ x ∈ updateFirst p f l, P x) ↔ (∀ x ∈ l, P x) ∧ ∀ x, l.find? p = some x → P (f x) := by
  induction l with
  | nil => simp [updateFirst]
  | cons x rest ih =>
      by_cases hx : p x = true
      · have hfind : ∀ y, (x :: rest).find? p = some y → y = x := by
          intro y hy
          rw [List.find?_cons_of_pos hx] at hy
          exact (Option.some.inj hy).symm
        rw [updateFirst, if_pos hx, List.forall_mem_cons, List.forall_mem_cons]
        constructor
        · rintro ⟨hfirst, hrest⟩
          exact ⟨⟨hback x hfirst, hrest⟩, fun y hy => hfind y hy ▸ hfirst⟩
        · rintro ⟨⟨-, hrest⟩, hchanged⟩
          exact ⟨hchanged x (List.find?_cons_of_pos hx), hrest⟩
      · rw [updateFirst, if_neg hx, List.forall_mem_cons, List.forall_mem_cons, ih,
          List.find?_cons_of_neg hx, and_assoc]

theorem distinctColumns_resolvedSchema (schema : Schema) :
    (resolvedSchema schema).DistinctColumns ↔ schema.DistinctColumns := by
  have hnames : ∀ table : Table,
      (table.columns.map (resolveColumn schema.tables)).map (·.name) =
        table.columns.map (·.name) := by
    intro table
    rw [List.map_map]
    rfl
  unfold Schema.DistinctColumns resolvedSchema resolveTables
  rw [List.forall_mem_map]
  exact forall₂_congr fun table _ => by rw [hnames]

/-! ### A foreign key -/

theorem nodup_keyTable (schema : Schema) (relation : Relation) (table : Table) :
    ((keyTable schema relation table).columns.map (·.name)).Nodup ↔
      (table.columns.map (·.name)).Nodup := by
  unfold keyTable
  split
  · rw [Table.updateColumn, map_updateFirst (attach_name relation)]
  · rename_i hnone
    have hnew : relation.source.column ∉ table.columns.map (·.name) := by
      intro hmem
      obtain ⟨column, hcolumn, hname⟩ := List.mem_map.mp hmem
      exact List.find?_eq_none.mp hnone column hcolumn (decide_eq_true hname)
    rw [List.map_append, List.map_singleton, ← List.concat_eq_append, List.nodup_concat]
    exact and_iff_right hnew

theorem distinctColumns_linkForeignKey (schema : Schema) (relation : Relation) :
    (linkForeignKey schema relation).value.DistinctColumns ↔ schema.DistinctColumns := by
  rw [linkForeignKey_value]
  unfold Schema.DistinctColumns Schema.updateTable
  rw [forall_mem_updateFirst_iff fun table => (nodup_keyTable schema relation table).mp]
  refine and_iff_left_of_imp fun h table htable => ?_
  exact (nodup_keyTable schema relation table).mpr (h table (List.mem_of_find?_eq_some htable))

/-! ### A junction -/

theorem names_joinTable (schema : Schema) (relation : Relation) (table : Table) :
    (joinTable schema relation table).columns.map (·.name) =
      table.columns.map (·.name) ++
        ([relation.source, relation.target].filter fun endpoint =>
          !table.columns.any (·.refersTo endpoint)).map keyName := by
  rw [joinTable, List.map_append, map_name_promote, missingColumns, List.map_map]
  rfl

theorem nodup_map_filter_pair {α β : Type} {p : α → Bool} {f : α → β} {a b : α} :
    (([a, b].filter p).map f).Nodup ↔ (p a = true → p b = true → f a ≠ f b) := by
  cases ha : p a <;> cases hb : p b <;> simp [ha, hb]

/-- The names in a junction table stay distinct just if those that a relation adds are new. -/
theorem nodup_joinTable (schema : Schema) (named : NamedRelation)
    (h : (schema.columnNames (junctionName named)).Nodup) :
    ((joinTable schema named.relation
      ((schema.table? (junctionName named)).getD { name := junctionName named })).columns.map
        (·.name)).Nodup ↔ schema.Fresh named := by
  have hlacks : ∀ endpoint, named.relation.HasEnd endpoint →
      ((!((schema.table? (junctionName named)).getD { name := junctionName named }).columns.any
        (·.refersTo endpoint)) = true ↔ schema.Lacks named endpoint) := by
    intro endpoint hend
    rw [Bool.not_eq_true', any_refersTo_eq_false]
    exact (and_iff_right hend).symm
  rw [names_joinTable, List.nodup_append, nodup_map_filter_pair, hlacks _ (.inl rfl),
    hlacks _ (.inr rfl)]
  constructor
  · rintro ⟨-, hends, hdisjoint⟩
    refine ⟨fun endpoint hlack hmem => ?_, hends⟩
    have hadded : endpoint ∈ [named.relation.source, named.relation.target].filter fun endpoint =>
        !((schema.table? (junctionName named)).getD { name := junctionName named }).columns.any
          (·.refersTo endpoint) :=
      List.mem_filter.mpr ⟨by simpa [Relation.HasEnd] using hlack.1,
        (hlacks endpoint hlack.1).mpr hlack⟩
    exact hdisjoint _ hmem _ (List.mem_map_of_mem hadded) rfl
  · intro hfresh
    refine ⟨h, hfresh.ends, ?_⟩
    rintro name hname _ hadded rfl
    obtain ⟨endpoint, hmem, rfl⟩ := List.mem_map.mp hadded
    obtain ⟨hmem, hlack⟩ := List.mem_filter.mp hmem
    have hend : named.relation.HasEnd endpoint := by simpa [Relation.HasEnd] using hmem
    exact hfresh.columns endpoint ((hlacks endpoint hend).mp hlack) hname

theorem distinctColumns_withTable (schema : Schema) (name : String) :
    (schema.withTable name).DistinctColumns ↔ schema.DistinctColumns := by
  unfold Schema.withTable
  split
  · exact Iff.rfl
  · unfold Schema.DistinctColumns Schema.addTable
    rw [List.forall_mem_append, List.forall_mem_singleton]
    exact and_iff_left List.nodup_nil

theorem nodup_columnNames (h : schema.DistinctColumns) (name : String) :
    (schema.columnNames name).Nodup := by
  cases htable : schema.table? name with
  | some table =>
      rw [Schema.columnNames, Schema.columnsOf_of_table? htable]
      exact h table (List.mem_of_find?_eq_some htable)
  | none =>
      rw [Schema.columnNames, Schema.columnsOf_of_none htable]
      exact List.nodup_nil

theorem distinctColumns_linkJunction (schema : Schema) (named : NamedRelation) :
    (linkJunction schema named).value.DistinctColumns ↔
      schema.DistinctColumns ∧ schema.Fresh named := by
  have hback : ∀ table : Table,
      ((joinTable schema named.relation table).columns.map (·.name)).Nodup →
        (table.columns.map (·.name)).Nodup := by
    intro table h
    rw [names_joinTable] at h
    exact h.of_append_left
  have hfound : (schema.withTable (junctionName named)).table? (junctionName named) =
      some ((schema.table? (junctionName named)).getD { name := junctionName named }) := by
    cases htable : schema.table? (junctionName named) with
    | some table => exact Schema.table?_withTable htable
    | none => exact Schema.table?_withTable_self htable
  have hstep : (linkJunction schema named).value.DistinctColumns ↔
      (schema.withTable (junctionName named)).DistinctColumns ∧
        ∀ table, (schema.withTable (junctionName named)).table? (junctionName named) = some table →
          ((joinTable schema named.relation table).columns.map (·.name)).Nodup := by
    rw [linkJunction_value]
    exact forall_mem_updateFirst_iff hback
  rw [hstep, distinctColumns_withTable]
  refine and_congr_right fun h => ?_
  rw [← nodup_joinTable schema named (nodup_columnNames h _)]
  constructor
  · intro hchanged
    exact hchanged _ hfound
  · rintro hnodup table htable
    cases hfound.symm.trans htable
    exact hnodup

/-! ### All junctions -/

theorem distinctColumns_linkJunctions (schema : Schema) (relations : List NamedRelation) :
    (linkEach linkJunction schema relations).value.DistinctColumns ↔
      schema.DistinctColumns ∧ ∀ before named after, relations = before ++ named :: after →
        (linkEach linkJunction schema before).value.Fresh named := by
  induction relations generalizing schema with
  | nil => simp
  | cons first rest ih =>
      rw [linkEach_cons, ih, distinctColumns_linkJunction, and_assoc]
      refine and_congr_right fun _ => ?_
      constructor
      · rintro ⟨hfirst, hrest⟩ before named after hsplit
        cases before with
        | nil =>
            cases hsplit
            exact hfirst
        | cons head before =>
            rw [List.cons_append, List.cons.injEq] at hsplit
            obtain ⟨rfl, hsplit⟩ := hsplit
            exact hrest before named after hsplit
      · intro h
        refine ⟨h [] first rest rfl, fun before named after hsplit => ?_⟩
        exact h (first :: before) named after (by rw [hsplit, List.cons_append])

theorem mem_columnNames_linkJunction (schema : Schema) (named : NamedRelation)
    (name columnName : String) :
    columnName ∈ (linkJunction schema named).value.columnNames name ↔
      columnName ∈ schema.columnNames name ∨
        junctionName named = name ∧ ∃ endpoint, schema.Lacks named endpoint ∧
          keyName endpoint = columnName := by
  unfold Schema.columnNames
  rw [columnsOf_linkJunction]
  by_cases hname : name = junctionName named
  · subst hname
    rw [if_pos rfl, List.map_append, map_name_promote, List.mem_append]
    refine or_congr_right ?_
    rw [List.mem_map]
    constructor
    · rintro ⟨column, hcolumn, rfl⟩
      obtain ⟨endpoint, hend, hlack, rfl⟩ := mem_missingColumns_iff.mp hcolumn
      exact ⟨rfl, endpoint, ⟨hend, any_refersTo_eq_false.mp hlack⟩, rfl⟩
    · rintro ⟨-, endpoint, ⟨hend, hlack⟩, rfl⟩
      exact ⟨junctionColumn schema named.relation endpoint,
        mem_missingColumns_iff.mpr ⟨endpoint, hend, any_refersTo_eq_false.mpr hlack, rfl⟩, rfl⟩
  · rw [if_neg hname]
    simp [Ne.symm hname]

theorem mem_columnNames_linkJunctions (schema : Schema) (relations : List NamedRelation)
    (name columnName : String) :
    columnName ∈ (linkEach linkJunction schema relations).value.columnNames name ↔
      columnName ∈ schema.columnNames name ∨ ∃ named ∈ relations, junctionName named = name ∧
        ∃ endpoint, schema.Lacks named endpoint ∧ keyName endpoint = columnName := by
  induction relations generalizing schema with
  | nil => simp
  | cons first rest ih =>
      rw [linkEach_cons, ih, mem_columnNames_linkJunction, List.exists_mem_cons_iff, or_assoc]
      refine or_congr_right ?_
      -- what the others lack behind the first relation they lacked before it, and the first one
      -- lacks the rest of that
      constructor
      · rintro (hfirst | ⟨named, hnamed, hname, endpoint, ⟨hend, hlack⟩, hkey⟩)
        · exact .inl hfirst
        · rw [refersFrom_linkJunction, not_or] at hlack
          exact .inr ⟨named, hnamed, hname, endpoint, ⟨hend, hlack.1⟩, hkey⟩
      · rintro (hfirst | ⟨named, hnamed, hname, endpoint, ⟨hend, hlack⟩, hkey⟩)
        · exact .inl hfirst
        · by_cases hshared : junctionName first = junctionName named ∧
            first.relation.HasEnd endpoint
          · refine .inl ⟨hshared.1.trans hname, endpoint, ⟨hshared.2, ?_⟩, hkey⟩
            rwa [hshared.1]
          · refine .inr ⟨named, hnamed, hname, endpoint, ⟨hend, ?_⟩, hkey⟩
            rw [refersFrom_linkJunction, not_or]
            exact ⟨hlack, hshared⟩

/-- The names that relations give to the columns of their junction tables are distinct and new.
They count for the endpoints to which no column of the junction table refers from the outset. -/
structure KeysApart (schema : Schema) (relations : List NamedRelation) : Prop where
  /-- No column has one of the names already. -/
  columns : ∀ named ∈ relations, ∀ endpoint, schema.Lacks named endpoint →
    keyName endpoint ∉ schema.columnNames (junctionName named)
  /-- Different endpoints of relations with the same junction have different names. -/
  endpoints : ∀ first ∈ relations, ∀ second ∈ relations, junctionName first = junctionName second →
    ∀ endpoint other, schema.Lacks first endpoint → schema.Lacks second other →
      keyName endpoint = keyName other → endpoint = other
  /-- A relation with one endpoint at both ends is not the first with this endpoint. -/
  loops : ∀ before named after, relations = before ++ named :: after →
    named.relation.source = named.relation.target → schema.Lacks named named.relation.source →
      ∃ earlier ∈ before, junctionName earlier = junctionName named ∧
        earlier.relation.HasEnd named.relation.source

/-- Behind some of the relations an endpoint is lacking that is so from the outset and that none of
them has at an end. -/
theorem lacks_linkJunctions : (linkEach linkJunction schema relations).value.Lacks named endpoint ↔
    schema.Lacks named endpoint ∧ ¬ ∃ earlier ∈ relations,
      junctionName earlier = junctionName named ∧ earlier.relation.HasEnd endpoint := by
  unfold Schema.Lacks
  rw [refersFrom_linkJunctions, not_or, and_assoc]

theorem KeysApart.fresh (h : KeysApart schema relations) {before after : List NamedRelation}
    (hsplit : relations = before ++ named :: after) :
    (linkEach linkJunction schema before).value.Fresh named := by
  have hnamed : named ∈ relations := by simp [hsplit]
  have hbefore : ∀ earlier ∈ before, earlier ∈ relations := by
    intro earlier hearlier
    rw [hsplit]
    exact List.mem_append_left _ hearlier
  refine ⟨fun endpoint hlack hmem => ?_, fun hsource htarget hkey => ?_⟩
  · obtain ⟨hlack, hnone⟩ := lacks_linkJunctions.mp hlack
    rcases (mem_columnNames_linkJunctions ..).mp hmem with
      hold | ⟨earlier, hearlier, hname, other, hother, hkey⟩
    · exact h.columns named hnamed endpoint hlack hold
    · have hsame : other = endpoint :=
        h.endpoints earlier (hbefore earlier hearlier) named hnamed hname other endpoint hother
          hlack hkey
      exact hnone ⟨earlier, hearlier, hname, hsame ▸ hother.1⟩
  · obtain ⟨hsource, hnone⟩ := lacks_linkJunctions.mp hsource
    obtain ⟨htarget, -⟩ := lacks_linkJunctions.mp htarget
    have hloop : named.relation.source = named.relation.target :=
      h.endpoints named hnamed named hnamed rfl _ _ hsource htarget hkey
    exact hnone (h.loops before named after hsplit hloop hsource)

theorem exists_first_end (hnamed : named ∈ relations) (hend : named.relation.HasEnd endpoint) :
    ∃ before first after, relations = before ++ first :: after ∧
      junctionName first = junctionName named ∧ first.relation.HasEnd endpoint ∧
      ¬ ∃ earlier ∈ before, junctionName earlier = junctionName named ∧
        earlier.relation.HasEnd endpoint := by
  let wanted (candidate : NamedRelation) : Bool :=
    decide (junctionName candidate = junctionName named ∧ candidate.relation.HasEnd endpoint)
  obtain ⟨first, hfirst⟩ : ∃ first, relations.find? wanted = some first :=
    Option.isSome_iff_exists.mp (List.find?_isSome.mpr ⟨named, hnamed, decide_eq_true ⟨rfl, hend⟩⟩)
  obtain ⟨hwanted, before, after, hsplit, hbefore⟩ := List.find?_eq_some_iff_append.mp hfirst
  obtain ⟨hname, hend⟩ := of_decide_eq_true hwanted
  refine ⟨before, first, after, hsplit, hname, hend, ?_⟩
  rintro ⟨earlier, hearlier, hfound⟩
  simpa [wanted, hfound] using hbefore earlier hearlier

/-- A relation that adds a column has another name for it than an earlier one had for its own. -/
theorem keyName_ne_of_earlier {before : List NamedRelation}
    (hfresh : (linkEach linkJunction schema before).value.Fresh named)
    (hlack : schema.Lacks named endpoint)
    (hfirst : ¬ ∃ earlier ∈ before, junctionName earlier = junctionName named ∧
      earlier.relation.HasEnd endpoint)
    (hother : ∃ earlier ∈ before, junctionName earlier = junctionName named ∧
      schema.Lacks earlier other) :
    keyName other ≠ keyName endpoint := by
  intro hkey
  obtain ⟨earlier, hearlier, hname, hother⟩ := hother
  refine hfresh.columns endpoint (lacks_linkJunctions.mpr ⟨hlack, hfirst⟩) ?_
  rw [mem_columnNames_linkJunctions]
  exact .inr ⟨earlier, hearlier, hname, other, hother, hkey⟩

/-- A relation that adds columns for two endpoints has two names for them. -/
theorem eq_of_keyName_eq {before : List NamedRelation}
    (hfresh : (linkEach linkJunction schema before).value.Fresh named)
    (hendpoint : (linkEach linkJunction schema before).value.Lacks named endpoint)
    (hother : (linkEach linkJunction schema before).value.Lacks named other)
    (hkey : keyName endpoint = keyName other) : endpoint = other := by
  rcases hendpoint.1 with rfl | rfl
  · rcases hother.1 with rfl | rfl
    · rfl
    · exact absurd hkey (hfresh.ends hendpoint hother)
  · rcases hother.1 with rfl | rfl
    · exact absurd hkey.symm (hfresh.ends hother hendpoint)
    · rfl

theorem mem_or_mem_of_split {α : Type} {before₁ after₁ before₂ after₂ : List α} {x y : α}
    (h : before₁ ++ x :: after₁ = before₂ ++ y :: after₂) :
    x ∈ before₂ ∨ y ∈ before₁ ∨ before₁ = before₂ ∧ x = y := by
  rcases List.append_eq_append_iff.mp h with ⟨between, hbefore, hafter⟩ | ⟨between, hbefore, hafter⟩
  · cases between with
    | nil =>
        cases hafter
        exact .inr (.inr ⟨by simpa using hbefore.symm, rfl⟩)
    | cons head between =>
        cases hafter
        exact .inl (by simp [hbefore])
  · cases between with
    | nil =>
        cases hafter
        exact .inr (.inr ⟨by simpa using hbefore, rfl⟩)
    | cons head between =>
        cases hafter
        exact .inr (.inl (by simp [hbefore]))

/-- All relations add new names just if the names are apart from the outset. -/
theorem forall_fresh_iff : (∀ before named after, relations = before ++ named :: after →
    (linkEach linkJunction schema before).value.Fresh named) ↔ KeysApart schema relations := by
  refine ⟨fun h => ⟨?_, ?_, ?_⟩, fun h before named after hsplit => h.fresh hsplit⟩
  · intro named hnamed endpoint hlack hmem
    obtain ⟨before, first, after, hsplit, hname, hend, hnone⟩ := exists_first_end hnamed hlack.1
    have hlacking : (linkEach linkJunction schema before).value.Lacks first endpoint :=
      lacks_linkJunctions.mpr ⟨⟨hend, hname ▸ hlack.2⟩, hname ▸ hnone⟩
    refine (h before first after hsplit).columns endpoint hlacking ?_
    rw [mem_columnNames_linkJunctions, hname]
    exact .inl hmem
  · intro first hfirst second hsecond hname endpoint other hendpoint hother hkey
    -- a column for an endpoint is added by the first relation that has it, and of those the later
    -- one finds the name of the other
    obtain ⟨before₁, adding₁, after₁, hsplit₁, hname₁, hend₁, hnone₁⟩ :=
      exists_first_end hfirst hendpoint.1
    obtain ⟨before₂, adding₂, after₂, hsplit₂, hname₂, hend₂, hnone₂⟩ :=
      exists_first_end hsecond hother.1
    have hsame : junctionName adding₁ = junctionName adding₂ := by rw [hname₁, hname₂, hname]
    have hlack₁ : schema.Lacks adding₁ endpoint := ⟨hend₁, hname₁ ▸ hendpoint.2⟩
    have hlack₂ : schema.Lacks adding₂ other := ⟨hend₂, hname₂ ▸ hother.2⟩
    have hfresh₁ := h before₁ adding₁ after₁ hsplit₁
    have hfresh₂ := h before₂ adding₂ after₂ hsplit₂
    rw [← hname₁] at hnone₁
    rw [← hname₂] at hnone₂
    rcases mem_or_mem_of_split (hsplit₁.symm.trans hsplit₂) with hmem | hmem | ⟨rfl, rfl⟩
    · exact absurd hkey (keyName_ne_of_earlier hfresh₂ hlack₂ hnone₂ ⟨adding₁, hmem, hsame, hlack₁⟩)
    · exact absurd hkey.symm
        (keyName_ne_of_earlier hfresh₁ hlack₁ hnone₁ ⟨adding₂, hmem, hsame.symm, hlack₂⟩)
    · exact eq_of_keyName_eq hfresh₁ (lacks_linkJunctions.mpr ⟨hlack₁, hnone₁⟩)
        (lacks_linkJunctions.mpr ⟨hlack₂, hnone₂⟩) hkey
  · intro before named after hsplit hloop hlack
    by_contra hnone
    have hsource : (linkEach linkJunction schema before).value.Lacks named named.relation.source :=
      lacks_linkJunctions.mpr ⟨hlack, hnone⟩
    exact (h before named after hsplit).ends hsource (hloop ▸ hsource) (congrArg keyName hloop)

/-! ### All together -/

/-- **When linking keeps the names of columns distinct.**  In the linked schema the columns of each
table have distinct names just if they have so in the schema and the names of the junction columns
are apart. -/
theorem distinctColumns_link (schema : Schema) (stated : List NamedRelation) :
    (link schema stated).value.DistinctColumns ↔
      schema.DistinctColumns ∧
        KeysApart (resolvedSchema schema) (junctionRelations schema stated) := by
  have hkeyed : (keyedSchema schema stated).DistinctColumns ↔
      (joinedSchema schema stated).DistinctColumns :=
    linkEach_preserves (P := fun current => current.DistinctColumns ↔
        (joinedSchema schema stated).DistinctColumns) Iff.rfl
      fun current relation _ h => (distinctColumns_linkForeignKey current relation).trans h
  calc (link schema stated).value.DistinctColumns
      ↔ (keyedSchema schema stated).DistinctColumns := Iff.rfl
    _ ↔ (joinedSchema schema stated).DistinctColumns := hkeyed
    _ ↔ (resolvedSchema schema).DistinctColumns ∧
          ∀ before named after, junctionRelations schema stated = before ++ named :: after →
            (linkEach linkJunction (resolvedSchema schema) before).value.Fresh named :=
        distinctColumns_linkJunctions ..
    _ ↔ schema.DistinctColumns ∧
          KeysApart (resolvedSchema schema) (junctionRelations schema stated) := by
        rw [distinctColumns_resolvedSchema, forall_fresh_iff]

/-- A table that is to be a junction has a column with the name of a key, but without a
reference. -/
def takenNameExample : Schema where
  tables :=
    [{ name := "a", columns := [{ name := "id", type := "int" }] },
     { name := "b", columns := [{ name := "id", type := "int" }] },
     { name := "links", columns := [{ name := "a_id", type := "int" }] }]

/-- **Distinct names do not always stay so**: the junction gets a second column of the name. -/
theorem not_distinctColumns_link_of_taken_name :
    let stated : List NamedRelation :=
      [⟨⟨⟨"a", "id"⟩, ⟨"b", "id"⟩, .manyToMany, none, none⟩, some "links"⟩]
    takenNameExample.DistinctColumns ∧ ¬ (link takenNameExample stated).value.DistinctColumns := by
  decide

end Linking

end Dbml
