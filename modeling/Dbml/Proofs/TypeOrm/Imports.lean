import Mathlib.Data.List.Forall2
import Dbml.Proofs.Token.Lexing
import Dbml.Proofs.TypeOrm.PropertyNames

/-!
# What an entity imports

The file of an entity begins with one line for decorators and one for each other entity that it
names.  Both are noted while the entity is put together, next to the properties that need them.

* `mem_names_entity`: a decorator is noted just if a property is written with it;
* `pairwise_usedBefore`: the other tables that are noted are in the order in which they are first
  used;
* `relations_entity`: the class that a relation property names is that of its table.

`imports_exact` puts them together, so that a class which a property names is either imported or the
one that is declared.
-/

namespace Dbml.TypeOrm

/-! ### Decorators and classes of a property -/

/-- The decorators in the order in which they are imported. -/
def importOrder : List String :=
  ["Entity", "Column", "PrimaryColumn", "PrimaryGeneratedColumn", "CreateDateColumn",
   "UpdateDateColumn", "DeleteDateColumn", "OneToOne", "OneToMany", "ManyToOne", "JoinColumn"]

/-- A property of the entity is written with the decorator of this name. -/
def Entity.Uses (entity : Entity) (name : String) : Prop :=
  ∃ property ∈ entity.properties, ∃ decorator ∈ property.decorators, ∃ arguments,
    decorator.text = "@" ++ name ++ "(" ++ arguments ++ ")"

/-- The property is for a relation. -/
def Property.isRelation (property : Property) : Bool :=
  property.decorators.any (·.side?.isSome)

/-- The property names the class of the table, and no other, in its decorators and in its type. -/
def Property.NamesClassOf (property : Property) (table : String) : Prop :=
  (property.decorators.filterMap (·.side?)).map (·.target) = [Naming.className table] ∧
    (property.type = Naming.className table ∨ property.type = Naming.className table ++ "[]")

/-- One name is used before the other one is used for the first time. -/
def UsedBefore (uses : List String) (a b : String) : Prop :=
  ∃ before after, uses = before ++ a :: after ∧ b ∉ before

variable {options : GeneratorOptions} {schema : Schema} {table other related : Table}
  {column : Column}
  {reference : Reference}

/-! ### Decorators -/

/-- The kinds of decorators in their order. -/
def allKinds : List DecoratorKind :=
  [.entity, .column, .primaryColumn, .primaryGeneratedColumn, .createDateColumn, .updateDateColumn,
   .deleteDateColumn, .oneToOne, .oneToMany, .manyToOne, .joinColumn]

theorem importOrder_eq : importOrder = allKinds.map DecoratorKind.name := rfl

theorem mem_allKinds (kind : DecoratorKind) : kind ∈ allKinds := by
  cases kind <;> decide

theorem pairwise_allKinds : allKinds.Pairwise (·.rank < ·.rank) := by
  decide

/-- A decorator is written with the name under which it is imported. -/
theorem name_kind (decorator : Decorator) : decorator.kind.name = decorator.name := by
  cases decorator <;> rfl

theorem name_mem_importOrder (decorator : Decorator) : decorator.name ∈ importOrder := by
  rw [← name_kind, importOrder_eq]
  exact List.mem_map_of_mem (mem_allKinds decorator.kind)

theorem bracket_not_mem_of_mem_importOrder : ∀ name ∈ importOrder, '(' ∉ name.toList := by
  decide

theorem ne_bracket_of_mem_importOrder {name : String} (hname : name ∈ importOrder) :
    ∀ c ∈ name.toList, decide (c ≠ '(') = true :=
  fun _ hc => decide_eq_true
    (ne_of_mem_of_not_mem hc (bracket_not_mem_of_mem_importOrder name hname))

theorem exists_text_iff {decorator : Decorator} {name : String} (hname : name ∈ importOrder) :
    (∃ arguments, decorator.text = "@" ++ name ++ "(" ++ arguments ++ ")") ↔
      decorator.name = name := by
  constructor
  · rintro ⟨arguments, htext⟩
    have hchars : decorator.name.toList ++ '(' :: (decorator.arguments.toList ++ [')']) =
        name.toList ++ '(' :: (arguments.toList ++ [')']) := by
      have h := congrArg String.toList htext
      simpa [Decorator.text, String.toList_append] using h
    -- either name is what stands in front of the first bracket
    have htaken := congrArg (List.takeWhile (· ≠ '(')) hchars
    rw [Text.takeWhile_run (ne_bracket_of_mem_importOrder (name_mem_importOrder decorator))
      (by simp), Text.takeWhile_run (ne_bracket_of_mem_importOrder hname) (by simp)] at htaken
    exact String.toList_injective htaken
  · rintro rfl
    exact ⟨decorator.arguments, rfl⟩

theorem uses_iff {entity : Entity} {name : String} (hname : name ∈ importOrder) :
    entity.Uses name ↔ ∃ kind, UsesKind entity.properties kind ∧ kind.name = name := by
  simp only [Entity.Uses, exists_text_iff hname, UsesKind, List.mem_map]
  constructor
  · rintro ⟨property, hproperty, decorator, hdecorator, rfl⟩
    exact ⟨_, ⟨property, hproperty, decorator, hdecorator, rfl⟩, name_kind decorator⟩
  · rintro ⟨_, ⟨property, hproperty, decorator, hdecorator, rfl⟩, rfl⟩
    exact ⟨property, hproperty, decorator, hdecorator, (name_kind decorator).symm⟩

/-- A decorator is noted just if it is that of entities or a property is written with it. -/
theorem mem_names_entity (options : GeneratorOptions) (schema : Schema) (table : Table)
    {name : String} (hname : name ∈ importOrder) :
    name ∈ (entity options schema table).value.decorators.kinds.map (·.name) ↔
      name = "Entity" ∨ (entity options schema table).value.Uses name := by
  have hkinds : ∀ kind, kind ∈ (entity options schema table).value.decorators.kinds ↔
      kind = .entity ∨ UsesKind (entity options schema table).value.properties kind :=
    mem_decorators_entity options schema table
  simp only [uses_iff hname, List.mem_map, hkinds, or_and_right, exists_or, exists_eq_left]
  exact or_congr_left eq_comm

theorem sublist_importOrder (set : DecoratorSet) :
    (set.kinds.map (·.name)).Sublist importOrder := by
  have hsubset : set.kinds.Subperm allKinds :=
    List.subperm_of_subset set.nodup fun kind _ => mem_allKinds kind
  have := antisymm_rank
  rw [importOrder_eq]
  exact (List.sublist_of_subperm_of_pairwise hsubset set.sorted pairwise_allKinds).map _

/-! ### Relation properties -/

theorem exists_of_mem_of_forall₂ {α β : Type} {R : α → β → Prop} {xs : List α} {ys : List β}
    (h : List.Forall₂ R xs ys) {x : α} (hx : x ∈ xs) : ∃ y ∈ ys, R x y := by
  induction h with
  | nil => contradiction
  | cons hfirst _ ih =>
      rcases List.mem_cons.mp hx with rfl | hrest
      · exact ⟨_, List.mem_cons_self, hfirst⟩
      · obtain ⟨y, hy, hxy⟩ := ih hrest
        exact ⟨y, List.mem_cons_of_mem _ hy, hxy⟩

theorem isRelation_valueProperty {decorator : Decorator} (h : decorator.side? = none) :
    (valueProperty options column decorator).isRelation = false := by
  simp [Property.isRelation, valueProperty, h]

theorem side?_keyDecorator : (keyDecorator column).side? = none := by
  unfold keyDecorator
  split <;> rfl

theorem side?_columnDecorator : (columnDecorator column).side? = none := by
  unfold columnDecorator
  split
  · exact side?_keyDecorator
  · split
    · rename_i kind _
      cases kind <;> rfl
    · rfl

theorem isRelation_relationProperty :
    (relationProperty options table column reference related).isRelation = true := by
  unfold relationProperty Property.isRelation
  cases column.isOneToOneKey <;> rfl

theorem isRelation_reverseProperty : (reverseProperty table other column).isRelation = true := by
  unfold reverseProperty Property.isRelation
  cases column.isOneToOneKey <;> rfl

theorem namesClassOf_relationProperty :
    (relationProperty options table column reference related).NamesClassOf related.name := by
  unfold relationProperty Property.NamesClassOf
  cases column.isOneToOneKey <;> exact ⟨rfl, .inl rfl⟩

theorem namesClassOf_reverseProperty :
    (reverseProperty table other column).NamesClassOf other.name := by
  unfold reverseProperty Property.NamesClassOf
  cases column.isOneToOneKey with
  | true => exact ⟨rfl, .inl rfl⟩
  | false => exact ⟨rfl, .inr rfl⟩

/-! ### The tables of relation properties -/

/-- The property of a column is for a relation just if the column leads to a table, and then for
this one. -/
theorem columnProperty?_cases (options : GeneratorOptions) (schema : Schema) (table : Table)
    (column : Column) :
    (relatedTable? schema column = none ∧
      ∀ property ∈ columnProperty? options schema table column, property.isRelation = false) ∨
    ∃ related property, relatedTable? schema column = some related ∧
      columnProperty? options schema table column = some property ∧
      property.isRelation = true ∧ property.NamesClassOf related.name := by
  cases hvalue : holdsValue column with
  | true =>
      refine .inl ⟨relatedTable?_of_holdsValue hvalue, fun property hproperty => ?_⟩
      rw [columnProperty?_of_holdsValue hvalue, Option.mem_some_iff] at hproperty
      subst hproperty
      exact isRelation_valueProperty side?_columnDecorator
  | false =>
      rw [columnProperty?_of_not_holdsValue hvalue, relatedTable?, hvalue,
        if_neg Bool.false_ne_true]
      cases column.reference with
      | none => exact .inl ⟨rfl, by rintro property ⟨⟩⟩
      | some reference =>
          rw [Option.bind_some, Option.bind_some]
          cases schema.table? reference.table with
          | none => exact .inl ⟨rfl, by rintro property ⟨⟩⟩
          | some related =>
              exact .inr ⟨related, _, rfl, rfl, isRelation_relationProperty,
                namesClassOf_relationProperty⟩

/-- The relation properties of columns are those for the tables that they lead to. -/
theorem relations_columnProperties (options : GeneratorOptions) (schema : Schema) (table : Table)
    (columns : List Column) :
    List.Forall₂ (fun property related => property.NamesClassOf related.name)
      ((columns.filterMap (columnProperty? options schema table)).filter (·.isRelation))
      (columns.filterMap (relatedTable? schema)) := by
  induction columns with
  | nil => exact .nil
  | cons column rest ih =>
      rw [List.filterMap_cons, List.filterMap_cons]
      rcases columnProperty?_cases options schema table column with
        ⟨hnone, hplain⟩ | ⟨related, property, hsome, hproperty, hrelation, hclass⟩
      · rw [hnone]
        cases hproperty : columnProperty? options schema table column with
        | none => exact ih
        | some property =>
            dsimp only
            rw [List.filter_cons_of_neg (by simp [hplain property hproperty])]
            exact ih
      · rw [hsome, hproperty]
        dsimp only
        rw [List.filter_cons_of_pos hrelation]
        exact .cons hclass ih

theorem filter_isRelation_reverseProperties (schema : Schema) (table : Table) :
    (reverseProperties schema table).filter (·.isRelation) = reverseProperties schema table := by
  rw [List.filter_eq_self]
  intro property hproperty
  obtain ⟨other, -, hother⟩ := List.mem_flatMap.mp hproperty
  obtain ⟨key, -, rfl⟩ := List.mem_map.mp hother
  exact isRelation_reverseProperty

/-- The properties for the other direction are those for the tables with keys that lead here. -/
theorem reverseProperties_eq (schema : Schema) (table : Table) :
    reverseProperties schema table =
      (reverseKeys schema table).map fun (other, column) => reverseProperty table other column := by
  rw [reverseProperties, reverseKeys, List.map_flatMap]
  refine List.flatMap_congr fun other _ => ?_
  rw [reversePropertiesFrom, List.map_map]
  rfl

/-- The relation properties of an entity name the classes of the tables that they are for. -/
theorem relations_entity (options : GeneratorOptions) (schema : Schema) (table : Table) :
    List.Forall₂ (fun property related => property.NamesClassOf related.name)
      ((entity options schema table).value.properties.filter (·.isRelation))
      (relationTables schema table) := by
  rw [entity_properties, List.filter_append, filter_isRelation_reverseProperties, relationTables,
    reverseProperties_eq]
  refine List.rel_append (relations_columnProperties options schema table table.columns) ?_
  rw [List.forall₂_map_left_iff, List.forall₂_map_right_iff, List.forall₂_same]
  exact fun key _ => namesClassOf_reverseProperty

/-! ### Imported tables -/

/-- The names that are left of a list without `own` and without repetitions are in the order in
which they come first. -/
theorem pairwise_usedBefore (uses : List String) (own : String) :
    (uses.filter (· ≠ own)).eraseDups.Pairwise (UsedBefore uses) := by
  induction uses using List.reverseRecOn with
  | nil => exact .nil
  | append_singleton uses name ih =>
      have hkept : (uses.filter (· ≠ own)).eraseDups.Pairwise (UsedBefore (uses ++ [name])) := by
        refine ih.imp ?_
        rintro a b ⟨before, after, rfl, hb⟩
        exact ⟨before, after ++ [name], by rw [List.append_assoc, List.cons_append], hb⟩
      rw [List.filter_append]
      by_cases hown : name = own
      · rw [List.filter_cons_of_neg (by simpa using hown), List.filter_nil, List.append_nil]
        exact hkept
      · rw [List.filter_cons_of_pos (by simpa using hown), List.filter_nil, eraseDups_concat]
        split
        · exact hkept
        · rename_i hnew
          refine List.pairwise_append.mpr ⟨hkept, List.pairwise_singleton _ _, fun a ha b hb => ?_⟩
          rw [List.mem_singleton.mp hb]
          obtain ⟨before, after, hsplit⟩ :=
            List.append_of_mem (List.mem_filter.mp (List.mem_eraseDups.mp ha)).1
          refine ⟨before, after ++ [name], by rw [hsplit, List.append_assoc, List.cons_append], ?_⟩
          intro hbefore
          refine hnew (List.mem_filter.mpr ⟨?_, by simpa using hown⟩)
          exact hsplit ▸ List.mem_append_left _ hbefore

/-! ### The file of an entity -/

/-- What the entity of a table imports: the decorators with these names, and the entities of these
tables. -/
structure ImportsExactly (schema : Schema) (table : Table) (entity : Entity)
    (decorators tables : List String) : Prop where
  /-- In front of the class there is a line for the decorators and one for each table. -/
  text : entity.text =
    "\n".intercalate
      (importLine decorators "typeorm" ::
        tables.map fun name => importLine [Naming.className name] ("./" ++ name ++ ".entity")) ++
    "\n\n@Entity('" ++ table.name ++ "')\nexport class " ++ Naming.className table.name ++
      " \x7b\n  " ++
    "\n\n  ".intercalate (entity.properties.map Property.text) ++ "\n\x7d\n"
  /-- Decorators are imported in their order, each once. -/
  decorators_order : decorators.Sublist importOrder
  /-- They are that of entities and those that the properties are written with. -/
  mem_decorators : ∀ name ∈ importOrder, name ∈ decorators ↔ name = "Entity" ∨ entity.Uses name
  /-- Tables are imported once each. -/
  tables_nodup : tables.Nodup
  /-- They are the other tables that relation properties refer to. -/
  mem_tables : ∀ name, name ∈ tables ↔
    name ≠ table.name ∧ ∃ related ∈ relationTables schema table, related.name = name
  /-- They are in the order in which they are first used. -/
  tables_order : tables.Pairwise (UsedBefore ((relationTables schema table).map (·.name)))
  /-- The relation properties, in their order, name the classes of the tables that they are for. -/
  relations : List.Forall₂ (fun property related => property.NamesClassOf related.name)
    (entity.properties.filter (·.isRelation)) (relationTables schema table)
  /-- So every class that a relation property names is declared here or imported. -/
  classes : ∀ property ∈ entity.properties, property.isRelation = true →
    ∃ name ∈ table.name :: tables, property.NamesClassOf name

/-- **An entity imports exactly what it uses.**  Its file imports the decorator of entities and
those that its properties are written with, each once and in their order, and the entities of the
other tables that its relation properties refer to, each once and in the order of first use.  A
class that a relation property names in a decorator or as its type is the one that the file
declares, or it is imported. -/
theorem imports_exact (options : GeneratorOptions) (schema : Schema) (table : Table) :
    ∃ decorators tables,
      ImportsExactly schema table (entity options schema table).value decorators tables := by
  have hrelations := relations_entity options schema table
  have htables := related_entity options schema table
  have hmem : ∀ name, name ∈ (entity options schema table).value.related ↔
      name ≠ table.name ∧ ∃ related ∈ relationTables schema table, related.name = name := by
    intro name
    rw [htables, List.mem_eraseDups, List.mem_filter, List.mem_map, decide_eq_true_iff]
    exact and_comm
  refine ⟨(entity options schema table).value.decorators.kinds.map (·.name),
    (entity options schema table).value.related, ?_⟩
  exact
    { text := by
        simp only [Entity.text, Entity.className, entity_table, String.append_assoc]
        rfl
      decorators_order := sublist_importOrder _
      mem_decorators := fun name hname => mem_names_entity options schema table hname
      tables_nodup := htables ▸ nodup_eraseDups _
      mem_tables := hmem
      tables_order := htables ▸ pairwise_usedBefore _ table.name
      relations := hrelations
      classes := by
        intro property hproperty hrelation
        obtain ⟨related, hrelated, hclass⟩ :=
          exists_of_mem_of_forall₂ hrelations (List.mem_filter.mpr ⟨hproperty, hrelation⟩)
        by_cases hown : related.name = table.name
        · exact ⟨table.name, List.mem_cons_self, hown ▸ hclass⟩
        · have himported := (hmem related.name).mpr ⟨hown, related, hrelated, rfl⟩
          exact ⟨related.name, List.mem_cons_of_mem _ himported, hclass⟩ }

end Dbml.TypeOrm
