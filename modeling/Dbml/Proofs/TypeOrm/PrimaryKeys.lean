import Dbml.Proofs.TypeOrm.PropertyTexts
import Dbml.Source.Parse

/-!
# Primary keys of entities

A column of the primary key is shown in its entity in one of three ways.

* If it is no foreign key, or a many-to-many one, it has a property for its value (`holdsValue`),
  which is marked as a primary key.
* Any other foreign key is a relation first: its property holds the entity of the related table.
* Where there is no such table, it has no property.

`text_of_key` says what is written for a column of the first kind, and `entity_has_primary_key`
finds it in the file of the entity.
-/

namespace Dbml.TypeOrm

variable {options : GeneratorOptions} {schema : Schema} {table : Table} {column : Column}

theorem text_of_key (hkey : column.primaryKey = true) (hvalue : holdsValue column = true) :
    columnText? options schema table column =
      some (commentText (options.comment? column) ++
        (if column.increment then "@PrimaryGeneratedColumn('increment')" else "@PrimaryColumn()") ++
        "\n  " ++ column.name ++ ": " ++ ColumnType.typeScript column.type ++ ";") := by
  have hdecorator : (keyDecorator column).text =
      if column.increment then "@PrimaryGeneratedColumn('increment')" else "@PrimaryColumn()" := by
    rw [keyDecorator]
    cases column.increment <;> decide
  rw [columnText?, columnProperty?_of_holdsValue hvalue, Option.map_some, text_valueProperty,
    columnDecorator, if_pos hkey, hdecorator]

/-- **A table with a key of its own has an entity with a primary key.**  Each column of the primary
key that is no foreign key, or a many-to-many one, has a property of its name in the file, whose one
decorator marks it as a primary key, generated if the column counts up. -/
theorem entity_has_primary_key (options : GeneratorOptions) (schema : Schema)
    (hcolumn : column ∈ table.columns) (hkey : column.primaryKey = true)
    (hvalue : column.reference = none ∨ column.isManyToManyKey = true) :
    ∃ before after,
      IsEntityText table.name
        (before ++
          (commentText (options.comment? column) ++
            (if column.increment then "@PrimaryGeneratedColumn('increment')"
              else "@PrimaryColumn()") ++
            "\n  " ++ column.name ++ ": " ++ ColumnType.typeScript column.type ++ ";") :: after)
        (entity options schema table).value.text := by
  have hholds : holdsValue column = true := by
    rcases hvalue with hnone | hmany
    · simp [holdsValue, hnone]
    · simp [holdsValue, hkey, hmany]
  obtain ⟨front, behind, hsplit⟩ := List.append_of_mem hcolumn
  have htext := isEntityText_entity options schema table
  rw [hsplit, List.filterMap_append, List.filterMap_cons_some (text_of_key hkey hholds),
    List.append_assoc, List.cons_append] at htext
  exact ⟨_, _, htext⟩

/-- Employees, whose key refers to their manager and to their mentor. -/
def employeesExample : Schema where
  tables :=
    [{ name := "employees"
       columns :=
        [{ name := "manager", type := "int", primaryKey := true
           reference := some ⟨"employees", "manager", some .manyToOne, none, none⟩ },
         { name := "mentor", type := "int", primaryKey := true, increment := true
           reference := some ⟨"employees", "manager", some .manyToMany, none, none⟩ }] }]

/-- The mentor is marked, as the second column of the key. -/
theorem entity_has_primary_key_of_employees :
    ∃ employees manager mentor, employeesExample.tables = [employees] ∧
      employees.columns = [manager, mentor] ∧ mentor.primaryKey = true ∧
      (mentor.reference = none ∨ mentor.isManyToManyKey = true) ∧
      ∃ before after,
        IsEntityText "employees"
          (before ++ "@PrimaryGeneratedColumn('increment')\n  mentor: number;" :: after)
          (entity {} employeesExample employees).value.text := by
  have hmentor : employeesExample.tables[0].columns[1] ∈ employeesExample.tables[0].columns :=
    List.getElem_mem _
  obtain ⟨before, after, htext⟩ := entity_has_primary_key {} employeesExample hmentor rfl (.inr rfl)
  refine ⟨_, _, _, rfl, rfl, rfl, .inr rfl, before, after, ?_⟩
  have hproperty : commentText
    (({} : GeneratorOptions).comment? employeesExample.tables[0].columns[1]) ++
      (if employeesExample.tables[0].columns[1].increment
        then "@PrimaryGeneratedColumn('increment')"
        else "@PrimaryColumn()") ++ "\n  " ++ employeesExample.tables[0].columns[1].name ++ ": " ++
      ColumnType.typeScript employeesExample.tables[0].columns[1].type ++ ";" =
      "@PrimaryGeneratedColumn('increment')\n  mentor: number;" := by
    decide
  rwa [hproperty] at htext

/-- Two tables, the second of which has the key of the first. -/
def foreignKeysSource : String :=
  "Table a \x7b\ni int [pk]\n\x7d\nTable c \x7b\na int [pk, ref: - a.i]\n\x7d"

/-- **A key may be nothing but a relation.**  The key of the second table is a foreign key; its
entity has the related one for its only property, and no primary key. -/
theorem no_primary_key_of_foreign_keys :
    ∃ parsed, (parse .strict foreignKeysSource.toList).outcome = .ok parsed ∧
      ∃ a c, parsed.tables = [a, c] ∧ (∃ column ∈ c.columns, column.primaryKey = true) ∧
        (entity {} parsed c).value.text =
          "import \x7b Entity, OneToOne, JoinColumn \x7d from 'typeorm';\n" ++
          "import \x7b A \x7d from './a.entity';\n\n" ++
          "@Entity('c')\nexport class C \x7b\n  @OneToOne(() => A, a => a.c)\n" ++
          "  @JoinColumn(\x7b name: 'a' \x7d)\n  a: A;\n\x7d\n" := by
  have hparse : (parse .strict foreignKeysSource.toList).outcome =
      .ok
        { tables :=
            [{ name := "a", columns := [{ name := "i", type := "int", primaryKey := true }] },
             { name := "c"
               columns :=
                [{ name := "a", type := "int", primaryKey := true
                   reference := some ⟨"a", "i", some .oneToOne, none, none⟩ }] }]
          relations := [⟨⟨"c", "a"⟩, ⟨"a", "i"⟩, .oneToOne, none, none⟩] } := by
    with_unfolding_all rfl
  refine ⟨_, hparse, _, _, rfl, ⟨_, List.mem_singleton_self _, rfl⟩, ?_⟩
  decide +kernel

end Dbml.TypeOrm
