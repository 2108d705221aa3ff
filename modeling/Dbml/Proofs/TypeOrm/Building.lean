import Mathlib.Data.List.Sort
import Dbml.Proofs.Schema.Distinct
import Dbml.TypeOrm.Printer

/-!
# How an entity is put together

An entity grows by one property at a time.  What its file imports is noted by hand next to each of
them, so that properties and imports belong together only if every place that makes a property sees
to it.

* `Entity.Grows`: some properties are added, and just the decorators in them and the tables that
  they are for are noted; steps that grow an entity add up (`Grows.trans`);
* `grows_addColumn`, `grows_addReverse`: what one column adds (`columnProperty?`, `relatedTable?`),
  and what a key of another table does (`reverseProperty`);
* `grows_entity`: so the whole entity grows from nothing by the properties of its columns and those
  for the other direction of the keys that lead to it.
-/

namespace Dbml.TypeOrm

/-! ### What the properties are -/

/-- The column has a property for its value, rather than one for the entity that it refers to. -/
def holdsValue (column : Column) : Bool :=
  column.reference.isNone || (column.primaryKey && column.isManyToManyKey)

/-- The decorator of a primary key. -/
def keyDecorator (column : Column) : Decorator :=
  if column.increment then .primaryGeneratedColumn else .primaryColumn

/-- The decorator of a timestamp. -/
def timestampDecorator : TimestampKind → Decorator
  | .created => .createDateColumn
  | .updated => .updateDateColumn
  | .deleted => .deleteDateColumn

/-- The decorator of a column that is no foreign key. -/
def columnDecorator (column : Column) : Decorator :=
  if column.primaryKey then keyDecorator column
  else
    match TimestampKind.ofColumn? column.name column.type with
    | some kind => timestampDecorator kind
    | none => .column (ColumnType.typeOrm column.type) column.nullable column.unique column.default

/-- The property of a foreign key that holds the entity of the related table. -/
def relationProperty (options : GeneratorOptions) (table : Table) (column : Column)
    (reference : Reference) (related : Table) : Property :=
  let target := Naming.className related.name
  let own := Naming.className table.name
  let side (accessor : String) : Side :=
    { target, accessor, onDelete := reference.onDelete, onUpdate := reference.onUpdate }
  { comment := options.comment? column
    decorators :=
      [if column.isOneToOneKey then .oneToOne (side (Naming.lowerFirst own))
        else .manyToOne (side (Naming.plural own)),
       .joinColumn column.name]
    name := Naming.lowerFirst target
    type := target }

/-- The table of the entity that the property of a column holds. -/
def relatedTable? (schema : Schema) (column : Column) : Option Table :=
  if holdsValue column then none
  else column.reference.bind fun reference => schema.table? reference.table

/-- The property of a column, if it has one. -/
def columnProperty? (options : GeneratorOptions) (schema : Schema) (table : Table)
    (column : Column) : Option Property :=
  if holdsValue column then some (valueProperty options column (columnDecorator column))
  else
    column.reference.bind fun reference =>
      (schema.table? reference.table).map (relationProperty options table column reference)

/-- The tables that the foreign keys of a table lead to, one for each key that has a property. -/
def relatedTables (schema : Schema) (table : Table) : List Table :=
  table.columns.filterMap (relatedTable? schema)

/-- A foreign key to the table, other than a many-to-many key that is part of the primary key. -/
def isRelationKey (target : Table) : Column × Reference → Bool
  | (column, reference) =>
    reference.table = target.name && !(column.primaryKey && column.isManyToManyKey)

/-- The foreign keys of a table to another one for which there are properties, in the order of the
columns. -/
def relationKeys (table target : Table) : List (Column × Reference) :=
  table.foreignKeys.filter (isRelationKey target)

/-- The foreign keys of other tables that lead to a table and have properties, each with its own
table. -/
def reverseKeys (schema : Schema) (table : Table) : List (Table × Column) :=
  (schema.tables.filter fun other => other.name ≠ table.name).flatMap fun other =>
    (relationKeys other table).map fun (column, _) => (other, column)

/-- The property for the other direction of a foreign key of the table `other`. -/
def reverseProperty (table other : Table) (column : Column) : Property :=
  let target := Naming.className other.name
  let side : Side := { target, accessor := Naming.lowerFirst (Naming.className table.name) }
  if column.isOneToOneKey then
    { decorators := [.oneToOne side], name := Naming.lowerFirst target, type := target }
  else { decorators := [.oneToMany side], name := Naming.plural target, type := target ++ "[]" }

/-- The properties for the foreign keys that another table has to a table. -/
def reversePropertiesFrom (table other : Table) : List Property :=
  (relationKeys other table).map fun (column, _) => reverseProperty table other column

/-- The properties for the foreign keys of all other tables, in their order. -/
def reverseProperties (schema : Schema) (table : Table) : List Property :=
  (schema.tables.filter fun other => other.name ≠ table.name).flatMap (reversePropertiesFrom table)

/-- The tables that relation properties refer to: those that the foreign keys of the table lead to,
and then those with foreign keys that lead to it. -/
def relationTables (schema : Schema) (table : Table) : List Table :=
  relatedTables schema table ++ (reverseKeys schema table).map (·.1)

/-- The kind of a decorator, as it is imported. -/
def Decorator.kind : Decorator → DecoratorKind
  | .column .. => .column
  | .primaryColumn => .primaryColumn
  | .primaryGeneratedColumn => .primaryGeneratedColumn
  | .createDateColumn => .createDateColumn
  | .updateDateColumn => .updateDateColumn
  | .deleteDateColumn => .deleteDateColumn
  | .oneToOne _ => .oneToOne
  | .oneToMany _ => .oneToMany
  | .manyToOne _ => .manyToOne
  | .joinColumn _ => .joinColumn

/-- One of the properties has a decorator of this kind. -/
def UsesKind (properties : List Property) (kind : DecoratorKind) : Prop :=
  ∃ property ∈ properties, kind ∈ property.decorators.map Decorator.kind

theorem columnProperty?_of_holdsValue {options : GeneratorOptions} {schema : Schema} {table : Table}
    {column : Column} (h : holdsValue column = true) :
    columnProperty? options schema table column =
      some (valueProperty options column (columnDecorator column)) :=
  if_pos h

theorem columnProperty?_of_not_holdsValue {options : GeneratorOptions} {schema : Schema}
    {table : Table} {column : Column} (h : holdsValue column = false) :
    columnProperty? options schema table column =
      column.reference.bind fun reference =>
        (schema.table? reference.table).map (relationProperty options table column reference) := by
  rw [columnProperty?, h, if_neg Bool.false_ne_true]

/-! ### Sets of decorators -/

theorem antisymm_rank : Std.Antisymm fun a b : DecoratorKind => a.rank < b.rank :=
  ⟨fun _ _ hab hba => absurd hab (Nat.lt_asymm hba)⟩

theorem DecoratorSet.nodup (set : DecoratorSet) : set.kinds.Nodup :=
  set.sorted.imp fun hlt heq => Nat.ne_of_lt hlt (congrArg DecoratorKind.rank heq)

theorem DecoratorSet.eq_of_mem_iff {first second : DecoratorSet}
    (h : ∀ kind, kind ∈ first ↔ kind ∈ second) : first = second := by
  have hperm : first.kinds.Perm second.kinds :=
    (List.perm_ext_iff_of_nodup first.nodup second.nodup).mpr h
  have hkinds : first.kinds = second.kinds :=
    have := antisymm_rank
    hperm.eq_of_pairwise' first.sorted second.sorted
  cases first
  cases second
  cases hkinds
  rfl

theorem Entity.eq_of_mem_iff {first second : Entity} (htable : first.table = second.table)
    (hdecorators : ∀ kind, kind ∈ first.decorators ↔ kind ∈ second.decorators)
    (hrelated : first.related = second.related)
    (hproperties : first.properties = second.properties) :
    first = second := by
  have hset := DecoratorSet.eq_of_mem_iff hdecorators
  cases first
  cases second
  cases htable
  cases hset
  cases hrelated
  cases hproperties
  rfl

/-! ### Growing -/

section

variable {table : Table} {entity next after : Entity} {kind : DecoratorKind} {name : String}
  {property : Property} {properties more : List Property} {names further : List String}

/-- An entity becomes another one by these properties, which are for the tables with these names. -/
structure Entity.Grows (entity after : Entity) (added : List Property)
    (names : List String) : Prop where
  table : after.table = entity.table
  properties : after.properties = entity.properties ++ added
  /-- Their decorators are noted, and no others. -/
  decorators : ∀ kind, kind ∈ after.decorators ↔ kind ∈ entity.decorators ∨ UsesKind added kind
  /-- Where the other tables that were used so far are noted, each once, they still are. -/
  related : ∀ used : List String, entity.related = (used.filter (· ≠ entity.table)).eraseDups →
    after.related = ((used ++ names).filter (· ≠ entity.table)).eraseDups

theorem usesKind_append :
    UsesKind (properties ++ more) kind ↔ UsesKind properties kind ∨ UsesKind more kind := by
  simp only [UsesKind, List.mem_append, or_and_right, exists_or]

theorem not_usesKind_nil : ¬ UsesKind [] kind := nofun

theorem usesKind_singleton :
    UsesKind [property] kind ↔ kind ∈ property.decorators.map Decorator.kind := by
  simp only [UsesKind, List.mem_singleton, exists_eq_left]

namespace Entity

theorem Grows.refl (entity : Entity) : entity.Grows entity [] [] where
  table := rfl
  properties := (List.append_nil _).symm
  decorators := fun _ => (or_iff_left not_usesKind_nil).symm
  related := fun used h => by rw [h, List.append_nil]

theorem Grows.trans (h : entity.Grows next properties names)
    (hnext : next.Grows after more further) :
    entity.Grows after (properties ++ more) (names ++ further) where
  table := hnext.table.trans h.table
  properties := by rw [hnext.properties, h.properties, List.append_assoc]
  decorators := fun kind => by rw [hnext.decorators, h.decorators, usesKind_append, or_assoc]
  related := fun used hused => by
    have hnames := hnext.related (used ++ names) (by rw [h.table]; exact h.related used hused)
    rwa [h.table, List.append_assoc] at hnames

/-- A fold grows an entity by all that its steps add. -/
theorem grows_foldl {α : Type} {step : Entity → α → Entity} {added : α → List Property}
    {used : α → List String} (xs : List α)
    (hstep : ∀ x ∈ xs, ∀ next : Entity, next.table = entity.table →
      next.Grows (step next x) (added x) (used x)) :
    entity.Grows (xs.foldl step entity) (xs.flatMap added) (xs.flatMap used) := by
  induction xs generalizing entity with
  | nil => exact .refl entity
  | cons x rest ih =>
      obtain ⟨hx, hrest⟩ := List.forall_mem_cons.mp hstep
      have hfirst := hx entity rfl
      rw [List.foldl_cons, List.flatMap_cons, List.flatMap_cons]
      exact hfirst.trans (ih fun y hy next hnext => hrest y hy next (hnext.trans hfirst.table))

@[simp] theorem table_refer (entity : Entity) (name : String) :
    (entity.refer name).table = entity.table := by
  rw [refer]
  split <;> rfl

@[simp] theorem properties_refer (entity : Entity) (name : String) :
    (entity.refer name).properties = entity.properties := by
  rw [refer]
  split <;> rfl

@[simp] theorem decorators_refer (entity : Entity) (name : String) :
    (entity.refer name).decorators = entity.decorators := by
  rw [refer]
  split <;> rfl

@[simp] theorem related_refer_use (entity : Entity) (kind : DecoratorKind) (name : String) :
    ((entity.use kind).refer name).related = (entity.refer name).related := by
  rw [refer, refer, apply_ite related, apply_ite related]
  rfl

@[simp] theorem mem_decorators_use {other : DecoratorKind} :
    other ∈ (entity.use kind).decorators ↔ other = kind ∨ other ∈ entity.decorators :=
  DecoratorSet.mem_insert

/-- To note a table twice, or the own one, is to leave things as they are. -/
theorem related_refer (entity : Entity) (name : String) (used : List String)
    (h : entity.related = (used.filter (· ≠ entity.table)).eraseDups) :
    (entity.refer name).related = ((used ++ [name]).filter (· ≠ entity.table)).eraseDups := by
  rw [List.filter_append, refer]
  by_cases hown : name = entity.table
  · rw [List.filter_cons_of_neg (by simpa using hown), List.filter_nil, List.append_nil,
      if_neg (by simp [hown]), h]
  · rw [List.filter_cons_of_pos (by simpa using hown), List.filter_nil, eraseDups_concat, h]
    by_cases hmem : name ∈ used.filter (· ≠ entity.table)
    · rw [if_pos hmem, if_neg (by simp_all [List.mem_eraseDups]), h]
    · rw [if_neg hmem, if_pos (by simp_all [List.mem_eraseDups])]

/-! ### The steps -/

/-- A property that holds a value is pushed when its decorator is noted. -/
theorem grows_use_push (decorator : Decorator) (hkind : decorator.kind = kind)
    (hproperty : property.decorators = [decorator]) :
    entity.Grows ((entity.use kind).push property) [property] [] where
  table := rfl
  properties := rfl
  decorators := fun other => by
    rw [usesKind_singleton, hproperty, List.map_singleton, List.mem_singleton, hkind]
    exact mem_decorators_use.trans or_comm
  related := fun used h => by rw [List.append_nil]; exact h

/-- A property for another table is pushed when this and its decorators are noted. -/
theorem grows_push_of_refer (htable : next.table = entity.table)
    (hproperties : next.properties = entity.properties)
    (hdecorators : ∀ kind, kind ∈ next.decorators ↔
      kind ∈ entity.decorators ∨ kind ∈ property.decorators.map Decorator.kind)
    (hrelated : next.related = (entity.refer name).related) :
    entity.Grows (next.push property) [property] [name] where
  table := htable
  properties := congrArg (· ++ [property]) hproperties
  decorators := fun kind => (hdecorators kind).trans (or_congr_right usesKind_singleton.symm)
  related := fun used h => hrelated.trans (related_refer entity name used h)

theorem grows_addKey (options : GeneratorOptions) (entity : Entity) (column : Column) :
    entity.Grows (entity.addKey options column)
      [valueProperty options column (keyDecorator column)] [] := by
  rw [addKey, keyDecorator]
  cases column.increment <;> exact grows_use_push _ rfl rfl

theorem grows_addTimestamp (options : GeneratorOptions) (entity : Entity) (column : Column)
    (kind : TimestampKind) :
    entity.Grows (entity.addTimestamp options column kind)
      [valueProperty options column (timestampDecorator kind)] [] := by
  cases kind <;> exact grows_use_push _ rfl rfl

theorem grows_addValue (options : GeneratorOptions) (entity : Entity) (column : Column) :
    entity.Grows (entity.addValue options column)
      [valueProperty options column
        (.column (ColumnType.typeOrm column.type) column.nullable column.unique column.default)]
      [] :=
  grows_use_push _ rfl rfl

theorem grows_addRelation (htable : entity.table = table.name) (options : GeneratorOptions)
    (column : Column) (reference : Reference) (related : Table) :
    entity.Grows (entity.addRelation options column reference related)
      [relationProperty options table column reference related] [related.name] := by
  rw [addRelation, relationDecorators, relationProperty, className, htable]
  have hkinds : ∀ used kind,
      kind ∈ (((entity.use used).use .joinColumn).refer related.name).decorators ↔
        kind ∈ entity.decorators ∨ kind ∈ [used, .joinColumn] := by
    intro used kind
    simp only [decorators_refer, mem_decorators_use, List.mem_cons, List.not_mem_nil]
    tauto
  cases column.isOneToOneKey with
  | true =>
      exact grows_push_of_refer (table_refer _ _) (properties_refer _ _) (hkinds .oneToOne)
        (by simp)
  | false =>
      exact grows_push_of_refer (table_refer _ _) (properties_refer _ _) (hkinds .manyToOne)
        (by simp)

theorem grows_addReverse (htable : entity.table = table.name) (other : Table) (column : Column) :
    entity.Grows (entity.addReverse other column) [reverseProperty table other column]
      [other.name] := by
  rw [addReverse, reverseProperty, className, htable]
  have hkinds : ∀ used kind, kind ∈ ((entity.refer other.name).use used).decorators ↔
      kind ∈ entity.decorators ∨ kind ∈ [used] := by
    intro used kind
    rw [mem_decorators_use, decorators_refer, List.mem_singleton, or_comm]
  cases column.isOneToOneKey with
  | true =>
      exact grows_push_of_refer (table_refer _ _) (properties_refer _ _) (hkinds .oneToOne) rfl
  | false =>
      exact grows_push_of_refer (table_refer _ _) (properties_refer _ _) (hkinds .oneToMany) rfl

theorem grows_addColumn (htable : entity.table = table.name) (options : GeneratorOptions)
    (schema : Schema) (column : Column) :
    entity.Grows (entity.addColumn options schema column).value
      (columnProperty? options schema table column).toList
      ((relatedTable? schema column).map (·.name)).toList := by
  rw [addColumn, columnProperty?, relatedTable?, holdsValue]
  cases hkey : column.primaryKey && column.isManyToManyKey with
  | true =>
      obtain ⟨hprimary, -⟩ := Bool.and_eq_true_iff.mp hkey
      rw [Bool.or_true, if_pos rfl, if_pos rfl, if_pos rfl, columnDecorator, if_pos hprimary]
      exact grows_addKey options entity column
  | false =>
      cases hreference : column.reference with
      | some reference =>
          simp only [Option.isNone_some, Bool.or_self, Bool.false_eq_true, if_false,
            Option.bind_some]
          cases schema.table? reference.table with
          | none => exact .refl entity
          | some related => exact grows_addRelation htable options column reference related
      | none =>
          simp only [Option.isNone_none, Bool.true_or, Bool.false_eq_true, if_false, if_true,
            columnDecorator]
          split
          · exact grows_addKey options entity column
          · cases TimestampKind.ofColumn? column.name column.type with
            | some kind => exact grows_addTimestamp options entity column kind
            | none => exact grows_addValue options entity column

/-! ### The whole entity -/

/-- The columns of a table add their properties in their order. -/
theorem grows_foldlM_addColumn (options : GeneratorOptions) (schema : Schema)
    (columns : List Column) (htable : entity.table = table.name) :
    entity.Grows (columns.foldlM (addColumn options schema) entity).value
      (columns.filterMap (columnProperty? options schema table))
      ((columns.filterMap (relatedTable? schema)).map (·.name)) := by
  induction columns generalizing entity with
  | nil => exact .refl entity
  | cons column rest ih =>
      have hfirst := grows_addColumn htable options schema column
      have hrest := ih (hfirst.table.trans htable)
      rw [List.foldlM_cons, Traced.value_bind]
      convert hfirst.trans hrest using 1
      · rw [List.filterMap_cons]
        cases columnProperty? options schema table column <;> rfl
      · rw [List.filterMap_cons]
        cases relatedTable? schema column <;> rfl

theorem grows_addReversesFrom (htable : entity.table = table.name) (other : Table) :
    entity.Grows (entity.addReversesFrom other) (reversePropertiesFrom table other)
      ((relationKeys other table).map fun _ => other.name) := by
  have hkeys : entity.addReversesFrom other =
      (relationKeys other table).foldl (fun entity key => entity.addReverse other key.1)
        entity := by
    rw [addReversesFrom, htable]
    rfl
  have hgrows := @grows_foldl entity _ (fun entity key => entity.addReverse other key.1)
    (fun key => [reverseProperty table other key.1]) (fun _ => [other.name])
    (relationKeys other table)
    fun key _ next hnext => grows_addReverse (hnext.trans htable) other key.1
  rw [hkeys, reversePropertiesFrom, List.map_eq_flatMap, List.map_eq_flatMap]
  exact hgrows

theorem grows_addReverses (htable : entity.table = table.name) (schema : Schema) :
    entity.Grows (entity.addReverses schema) (reverseProperties schema table)
      ((reverseKeys schema table).map (·.1.name)) := by
  have hgrows := @grows_foldl entity _ addReversesFrom (reversePropertiesFrom table)
    (fun other => (relationKeys other table).map fun _ => other.name)
    (schema.tables.filter (·.name ≠ table.name))
    fun other _ next hnext => grows_addReversesFrom (hnext.trans htable) other
  rw [addReverses, htable, reverseProperties, reverseKeys, List.map_flatMap]
  simp only [List.map_map, Function.comp_def]
  exact hgrows

end Entity

end

/-- An entity grows from nothing by the properties of its columns and those for the other
direction. -/
theorem grows_entity (options : GeneratorOptions) (schema : Schema) (table : Table) :
    Entity.Grows { table := table.name } (entity options schema table).value
      (table.columns.filterMap (columnProperty? options schema table) ++
        reverseProperties schema table)
      ((relationTables schema table).map (·.name)) := by
  have hcolumns : Entity.Grows { table := table.name } _ _ _ :=
    Entity.grows_foldlM_addColumn options schema table.columns (Eq.refl table.name)
  have hreverses := Entity.grows_addReverses hcolumns.table schema
  have hboth := hcolumns.trans hreverses
  rw [relationTables, List.map_append, List.map_map]
  exact hboth

theorem entity_table (options : GeneratorOptions) (schema : Schema) (table : Table) :
    (entity options schema table).value.table = table.name :=
  (grows_entity options schema table).table

theorem entity_properties (options : GeneratorOptions) (schema : Schema) (table : Table) :
    (entity options schema table).value.properties =
      table.columns.filterMap (columnProperty? options schema table) ++
        reverseProperties schema table :=
  (grows_entity options schema table).properties

/-- Besides the decorator of entities just those of the properties are imported. -/
theorem mem_decorators_entity (options : GeneratorOptions) (schema : Schema) (table : Table)
    (kind : DecoratorKind) :
    kind ∈ (entity options schema table).value.decorators ↔
      kind = .entity ∨ UsesKind (entity options schema table).value.properties kind := by
  rw [(grows_entity options schema table).decorators, entity_properties]
  exact or_congr_left DecoratorSet.mem_single

/-- The other tables that relation properties are for are imported once each. -/
theorem related_entity (options : GeneratorOptions) (schema : Schema) (table : Table) :
    (entity options schema table).value.related =
      (((relationTables schema table).map (·.name)).filter (· ≠ table.name)).eraseDups :=
  (grows_entity options schema table).related [] rfl

end Dbml.TypeOrm
