import Dbml.Proofs.Schema.OtherTables
import Dbml.Proofs.TypeOrm.PropertyNames
import Dbml.Source.Parse

/-!
# Foreign keys within one table

A foreign key that leads to its own table has one property only: the properties for the other
direction are those for the keys of other tables.  Its decorator names an accessor all the same, in
the singular for a one-to-one key, which is the name of the property itself, and in the plural for
any other one.

* `declares_iff`: the names that an entity declares, by the kinds of its properties;
* `pluralName_eq_singleName_iff`: the plural is the name of the property just if that ends in an
  `s`;
* `declares_pluralName_iff`: when the plural is declared;
* `self_reference_resolves_iff`: when the accessor is.
-/

namespace Dbml.TypeOrm

/-- A property of the entity has the name. -/
def Entity.Declares (entity : Entity) (name : String) : Prop :=
  ∃ property ∈ entity.properties, property.name = name

variable {options : GeneratorOptions} {schema : Schema} {table related : Table} {column : Column}
  {reference : Reference} {name : String}

/-! ### Declared names -/

/-- A name is declared for a column that holds a value, for a table that a foreign key leads to, or
for a foreign key of another table. -/
theorem declares_iff (options : GeneratorOptions) (schema : Schema) (table : Table) :
    (entity options schema table).value.Declares name ↔
      (∃ column ∈ valueColumns table, column.name = name) ∨
      (∃ related ∈ relatedTables schema table, singleName related = name) ∨
      ∃ key ∈ reverseKeys schema table, reverseName key = name := by
  have hcolumns := (perm_names_columnProperties options schema table table.columns).mem_iff
    (a := name)
  have hnames : (entity options schema table).value.Declares name ↔
      name ∈ (table.columns.filterMap fun column =>
          (columnProperty? options schema table column).map (·.name)) ∨
        name ∈ (reverseKeys schema table).map reverseName := by
    rw [Entity.Declares, ← List.mem_map, entity_properties, List.map_append, List.mem_append,
      List.map_filterMap, names_reverseProperties]
  rw [hnames, hcolumns, List.mem_append, or_assoc, List.mem_map, List.mem_map, List.mem_map]
  rfl

/-! ### Names of one table -/

/-- The plural is the singular just if that ends in an `s`. -/
theorem pluralName_eq_singleName_iff :
    pluralName table = singleName table ↔ (singleName table).toList.getLast? = some 's' := by
  rw [pluralName, Naming.plural]
  change (if (singleName table).toList.getLast? = some 's' then singleName table
    else singleName table ++ "s") = singleName table ↔ _
  split
  · rename_i hlast
    exact iff_of_true rfl hlast
  · rename_i hlast
    refine iff_of_false (fun h => ?_) hlast
    have hlength := congrArg (·.toList.length) h
    simp at hlength

/-! ### Keys that lead to their own table -/

theorem columnProperty?_of_self (options : GeneratorOptions)
    (hnames : (schema.tables.map (·.name)).Nodup)
    (htable : table ∈ schema.tables) (hreference : column.reference = some reference)
    (hself : reference.table = table.name) (hrelation : holdsValue column = false) :
    columnProperty? options schema table column =
        some (relationProperty options table column reference table) ∧
      relatedTable? schema column = some table := by
  have hfound : schema.table? reference.table = some table :=
    hself ▸ Schema.table?_of_mem hnames htable
  rw [columnProperty?_of_not_holdsValue hrelation, relatedTable?, hrelation,
    if_neg Bool.false_ne_true, hreference, Option.bind_some, Option.bind_some, hfound]
  exact ⟨rfl, rfl⟩

/-- Where a key leads to its own table, the plural of the name of its property is declared if that
is the name itself, or else for another member. -/
theorem declares_pluralName_iff (hmem : table ∈ relatedTables schema table) :
    (entity options schema table).value.Declares (pluralName table) ↔
      (singleName table).toList.getLast? = some 's' ∨
      (∃ other ∈ valueColumns table, other.name = pluralName table) ∨
      (∃ other ∈ relatedTables schema table, other.name ≠ table.name ∧
        singleName other = pluralName table) ∨
      ∃ key ∈ reverseKeys schema table, reverseName key = pluralName table := by
  rw [declares_iff, ← pluralName_eq_singleName_iff]
  constructor
  · rintro (hvalue | ⟨other, hother, hname⟩ | hkey)
    · exact .inr (.inl hvalue)
    · by_cases hown : other.name = table.name
      · have hsame : singleName other = singleName table := by
          rw [singleName, hown, singleName]
        exact .inl (hname.symm.trans hsame)
      · exact .inr (.inr (.inl ⟨other, hother, hown, hname⟩))
    · exact .inr (.inr (.inr hkey))
  · rintro (hplural | hvalue | ⟨other, hother, -, hname⟩ | hkey)
    · exact .inr (.inl ⟨table, hmem, hplural.symm⟩)
    · exact .inl hvalue
    · exact .inr (.inl ⟨other, hother, hname⟩)
    · exact .inr (.inr hkey)

/-- **When the accessor of a foreign key to its own table is declared.**  Let the key be one with a
relation property.  The accessor that its decorator names is declared just if the key is one-to-one,
or the name of its property ends in an `s`, which makes it its own plural, or this plural happens to
be the name of another member: of a column that holds a value, of a foreign key to another table, or
of one of another table. -/
theorem self_reference_resolves_iff (options : GeneratorOptions)
    (hnames : (schema.tables.map (·.name)).Nodup) (htable : table ∈ schema.tables)
    (hcolumn : column ∈ table.columns) (hreference : column.reference = some reference)
    (hself : reference.table = table.name) (hrelation : holdsValue column = false) :
    (entity options schema table).value.IsWritten ∧
    ∃ property ∈ (entity options schema table).value.properties, ∃ accessor,
      property.text = commentText (options.comment? column) ++
        relationText (if column.isOneToOneKey then "OneToOne" else "ManyToOne")
          (Naming.className table.name) accessor (actionsText reference) ++
        "\n  @JoinColumn(\x7b name: '" ++ column.name ++ "' \x7d)\n  " ++
        singleName table ++ ": " ++ Naming.className table.name ++ ";" ∧
      ((entity options schema table).value.Declares accessor ↔
        column.isOneToOneKey = true ∨
        (singleName table).toList.getLast? = some 's' ∨
        (∃ other ∈ valueColumns table, other.name = pluralName table) ∨
        (∃ other ∈ relatedTables schema table, other.name ≠ table.name ∧
          singleName other = pluralName table) ∨
        ∃ key ∈ reverseKeys schema table, reverseName key = pluralName table) := by
  obtain ⟨hproperty, hrelated⟩ :=
    columnProperty?_of_self options hnames htable hreference hself hrelation
  have hmem : table ∈ relatedTables schema table :=
    List.mem_filterMap.mpr ⟨column, hcolumn, hrelated⟩
  refine ⟨isWritten _, relationProperty options table column reference table, ?_,
    if column.isOneToOneKey then singleName table else pluralName table,
    text_relationProperty options table column reference table, ?_⟩
  · rw [entity_properties]
    exact List.mem_append_left _ (List.mem_filterMap.mpr ⟨column, hcolumn, hproperty⟩)
  · cases hkey : column.isOneToOneKey with
    | true =>
        rw [if_pos rfl]
        exact iff_of_true ((declares_iff options schema table).mpr (.inr (.inl ⟨table, hmem, rfl⟩)))
          (.inl rfl)
    | false =>
        rw [if_neg Bool.false_ne_true, declares_pluralName_iff hmem]
        exact (or_iff_right Bool.false_ne_true).symm

/-- Persons, each with another one for a boss, and groups of persons, each with a leader of its
own. -/
def personsExample : Schema where
  tables :=
    [{ name := "person"
       columns :=
        [{ name := "id", type := "int", primaryKey := true },
         { name := "boss", type := "int"
           reference := some { table := "person", column := "id" } }] },
     { name := "persons"
       columns :=
        [{ name := "leader", type := "int", unique := true
           reference := some { table := "person", column := "id" } }] }]

/-- The accessor for the boss of a person is declared, but it is the group that the person leads. -/
theorem self_reference_resolves_iff_of_persons :
    (personsExample.tables.map (·.name)).Nodup ∧ ∃ person group,
      personsExample.tables = [person, group] ∧
      ∃ id boss reference, person.columns = [id, boss] ∧ boss.reference = some reference ∧
        reference.table = person.name ∧ holdsValue boss = false ∧
        ∃ property ∈ (entity {} personsExample person).value.properties, ∃ accessor,
          property.text =
            relationText "ManyToOne" "Person" accessor "" ++
              "\n  @JoinColumn(\x7b name: 'boss' \x7d)\n  person: Person;" ∧
          (entity {} personsExample person).value.Declares accessor := by
  have hnames : (personsExample.tables.map (·.name)).Nodup := by decide
  obtain ⟨-, property, hmem, accessor, htext, hiff⟩ :=
    @self_reference_resolves_iff personsExample personsExample.tables[0]
      personsExample.tables[0].columns[1]
      _ {} hnames (List.getElem_mem _) (List.getElem_mem _) rfl rfl (by decide)
  refine ⟨hnames, _, _, rfl, _, _, _, rfl, rfl, rfl, by decide, property, hmem, accessor, ?_, ?_⟩
  · have hclass : Naming.className "person" = "Person" := by decide
    have hname : singleName personsExample.tables[0] = "person" := by decide
    have hdeclaration : "\n  @JoinColumn(\x7b name: '" ++
      ("boss" ++ ("' \x7d)\n  " ++ ("person" ++ (": " ++
        ("Person" ++ ";"))))) = "\n  @JoinColumn(\x7b name: 'boss' \x7d)\n  person: Person;" := by
      decide
    rw [htext, hname, ← hdeclaration]
    change "" ++ relationText "ManyToOne" (Naming.className "person") accessor "" ++ _ ++ "boss" ++
      _ ++ _ ++ _ ++
      Naming.className "person" ++ _ = _
    simp only [hclass, String.empty_append, String.append_assoc]
  · exact hiff.mpr (.inr (.inr (.inr (.inr (by decide)))))

/-- Users, each with another one for a manager. -/
def managersSource : String :=
  "Table user \x7b\n  id int [pk]\n  manager_id int [ref: > user.id]\n\x7d"

/-- **An accessor need not be declared.**  The entity of users has properties for their number and
for their manager; the decorator of the latter names an accessor in the plural, which is neither. -/
theorem no_accessor_of_self_reference :
    ∃ parsed, (parse .strict managersSource.toList).outcome = .ok parsed ∧
      (parsed.tables.map (·.name)).Nodup ∧
      ∃ user id manager, parsed.tables = [user] ∧ user.columns = [id, manager] ∧
        manager.reference.map (·.table) = some user.name ∧
        (entity {} parsed user).value.properties.map (·.name) = ["id", "user"] ∧
        (entity {} parsed user).value.text =
          "import \x7b Entity, PrimaryColumn, ManyToOne, JoinColumn \x7d from 'typeorm';\n\n" ++
          "@Entity('user')\nexport class User \x7b\n  @PrimaryColumn()\n  id: number;\n\n" ++
          "  @ManyToOne(() => User, user => user.users)\n" ++
          "  @JoinColumn(\x7b name: 'manager_id' \x7d)\n" ++
          "  user: User;\n\x7d\n" := by
  have hparse : (parse .strict managersSource.toList).outcome =
      .ok
        { tables :=
            [{ name := "user"
               columns :=
                [{ name := "id", type := "int", primaryKey := true },
                 { name := "manager_id", type := "int"
                   reference := some ⟨"user", "id", some .manyToOne, none, none⟩ }] }]
          relations := [⟨⟨"user", "manager_id"⟩, ⟨"user", "id"⟩, .manyToOne, none, none⟩] } := by
    with_unfolding_all rfl
  refine ⟨_, hparse, by decide, _, _, _, rfl, rfl, rfl, ?_, ?_⟩
  · decide
  · decide +kernel

end Dbml.TypeOrm
