import Dbml.Proofs.Schema.Distinct
import Dbml.Proofs.Schema.RoundTrip
import Dbml.Proofs.TypeOrm.Building

/-!
# The files of a TypeORM conversion

Every table has an entity, but a file is known by its name alone, and nothing keeps a source from
giving two tables one name.

* `entityFiles_entities`: there is a file for each name, at the place of the first table of that
  name and with the entity of the last one;
* `moduleText_eq`: the module has a line for each table all the same.

`no_entity_lost_iff` says that all tables have files of their own just if their names are distinct,
and that the module names distinct classes just if, besides, no two names have the same class.
-/

namespace Dbml.TypeOrm

open Parsing

/-- The file of a table's entity. -/
def fileName (table : String) : String :=
  table ++ ".entity.ts"

/-- The last table of a name. -/
def lastTable? (schema : Schema) (name : String) : Option Table :=
  schema.tables.reverse.find? (·.name = name)

/-- The entity of a table as a file. -/
def entityArtifact (options : GeneratorOptions) (schema : Schema) (table : Table) : Artifact :=
  ⟨fileName table.name, (entity options schema table).value.text⟩

/-- A file for each name of a table, in the order in which the names come first, with the entity of
the last table of that name. -/
def entityArtifacts (options : GeneratorOptions) (schema : Schema) : List Artifact :=
  (schema.tables.map (·.name)).eraseDups.filterMap fun name =>
    (lastTable? schema name).map (entityArtifact options schema)

/-- The line of the module that imports the entity of a table. -/
def moduleImport (table : Table) : String :=
  "import \x7b " ++ Naming.className table.name ++ " \x7d from './" ++ table.name ++ ".entity';"

/-- The lines of the module: what it imports, with one line for each table, and what it
registers. -/
def moduleLines (tables : List Table) : List String :=
  ["import \x7b Module \x7d from '@nestjs/common';",
   "import \x7b TypeOrmModule \x7d from '@nestjs/typeorm';"] ++
  tables.map moduleImport ++
  ["", "@Module(\x7b",
   "  imports: [TypeOrmModule.forFeature([" ++
    ", ".intercalate (tables.map (Naming.className ·.name)) ++ "])],",
   "  exports: [TypeOrmModule],", "\x7d)", "export class DatabaseModule \x7b\x7d", ""]

variable {options : GeneratorOptions} {schema : Schema} {mode : Mode} {source : List Char}

/-! ### Names of files -/

theorem fileName_injective : Function.Injective fileName := by
  intro a b h
  exact String.append_left_inj _ |>.mp h

theorem fileName_ne_module (table : String) : fileName table ≠ "database.module.ts" := by
  intro h
  have hend : ".entity.ts".toList <:+ "database.module.ts".toList := by
    rw [← h, fileName, String.toList_append]
    exact List.suffix_append _ _
  revert hend
  decide

/-! ### Files of entities -/

theorem entities_value (options : GeneratorOptions) (schema : Schema) (tables : List Table) :
    (entities options schema tables).value =
      tables.map fun table => (entity options schema table).value := by
  induction tables with
  | nil => rfl
  | cons table rest ih => exact congrArg ((entity options schema table).value :: ·) ih

theorem file_of_entity (options : GeneratorOptions) (schema : Schema) (table : Table) :
    entityFile (entity options schema table).value.table ++ ".ts" = fileName table.name := by
  rw [entity_table]
  exact String.append_assoc

theorem name_of_lastTable? {name : String} {table : Table}
    (h : lastTable? schema name = some table) :
    table.name = name := by
  simpa using List.find?_some h

theorem exists_lastTable? {name : String} (h : name ∈ schema.tables.map (·.name)) :
    ∃ table, lastTable? schema name = some table := by
  obtain ⟨table, htable, rfl⟩ := List.mem_map.mp h
  rw [← Option.isSome_iff_exists, lastTable?, List.find?_isSome]
  exact ⟨table, List.mem_reverse.mpr htable, decide_eq_true rfl⟩

/-- The files are those of the last tables of all names, in the order in which the names come
first. -/
theorem entityFiles_entities (options : GeneratorOptions) (schema : Schema) :
    (entityFiles (entities options schema schema.tables).value).map (fun (name, text) =>
        Artifact.mk name text) =
      entityArtifacts options schema := by
  have hfiles : entityFiles (entities options schema schema.tables).value =
      schema.tables.foldl (fun files table =>
        Keyed.set (fileName table.name) (entity options schema table).value.text files) [] := by
    rw [entityFiles, entities_value, List.foldl_map]
    simp only [file_of_entity]
  have hkeys : schema.tables.map (fun table => fileName table.name) =
      (schema.tables.map (·.name)).map fileName := by
    rw [List.map_map]
    rfl
  rw [hfiles, Keyed.foldl_set, hkeys, eraseDups_map fileName_injective, List.filterMap_map,
    List.map_filterMap]
  refine List.filterMap_congr fun name _ => ?_
  simp only [Function.comp_apply, fileName_injective.eq_iff, Option.map_map]
  change (lastTable? schema name).map _ = _
  refine Option.map_congr fun table htable => ?_
  rw [Function.comp_apply, entityArtifact, name_of_lastTable? htable]

theorem filenames_entityArtifacts (options : GeneratorOptions) (schema : Schema) :
    (entityArtifacts options schema).map (·.filename) =
      (schema.tables.map (·.name)).eraseDups.map fileName := by
  rw [entityArtifacts, List.map_filterMap, ← List.filterMap_eq_map (f := fileName)]
  refine List.filterMap_congr fun name hname => ?_
  obtain ⟨table, htable⟩ := exists_lastTable? (List.mem_eraseDups.mp hname)
  rw [htable, Option.map_some, Option.map_some, entityArtifact, name_of_lastTable? htable]
  rfl

theorem lastTable?_of_mem (hnames : (schema.tables.map (·.name)).Nodup) {table : Table}
    (htable : table ∈ schema.tables) : lastTable? schema table.name = some table := by
  obtain ⟨last, hlast⟩ := exists_lastTable? (List.mem_map_of_mem htable)
  have hmem : last ∈ schema.tables := List.mem_reverse.mp (List.mem_of_find?_eq_some hlast)
  rw [hlast, List.inj_on_of_nodup_map hnames hmem htable (name_of_lastTable? hlast)]

/-- There is a file for each table, in the order of the tables, just if no two tables share a
name. -/
theorem entityArtifacts_eq_iff :
    entityArtifacts options schema = schema.tables.map (entityArtifact options schema) ↔
      (schema.tables.map (·.name)).Nodup := by
  constructor
  · intro h
    have hlength : (schema.tables.map (·.name)).eraseDups.length = schema.tables.length := by
      have := congrArg List.length (filenames_entityArtifacts options schema)
      simpa [h] using this.symm
    rwa [← length_eraseDups_eq_iff, List.length_map]
  · intro hnames
    rw [entityArtifacts, eraseDups_eq_self hnames, List.filterMap_map, ← List.filterMap_eq_map]
    refine List.filterMap_congr fun table htable => ?_
    rw [Function.comp_apply, lastTable?_of_mem hnames htable]
    rfl

theorem length_entityArtifacts_eq_iff :
    (entityArtifacts options schema).length = schema.tables.length ↔
      (schema.tables.map (·.name)).Nodup := by
  have hlength : (entityArtifacts options schema).length =
      (schema.tables.map (·.name)).eraseDups.length := by
    have := congrArg List.length (filenames_entityArtifacts options schema)
    rwa [List.length_map, List.length_map] at this
  rw [hlength, ← length_eraseDups_eq_iff, List.length_map]

theorem nodup_filenames (options : GeneratorOptions) (schema : Schema) :
    ((entityArtifacts options schema).map (·.filename) ++ ["database.module.ts"]).Nodup := by
  rw [← List.concat_eq_append, List.nodup_concat, filenames_entityArtifacts]
  refine ⟨fun h => ?_, (nodup_eraseDups _).map fileName_injective⟩
  obtain ⟨name, -, hname⟩ := List.mem_map.mp h
  exact fileName_ne_module name hname

/-! ### The module -/

theorem entityImport_eq (table : Table) : entityImport table.name = moduleImport table := by
  have hopen : "import \x7b " = "import " ++ "\x7b " := by decide
  have hfrom : " \x7d from './" = " \x7d" ++ " from '" ++ "./" := by decide
  have hclose : ".entity';" = ".entity" ++ "';" := by decide
  rw [entityImport, importLine, moduleImport, entityFile, braced, String.intercalate_singleton,
    hopen, hfrom, hclose]
  simp only [String.append_assoc]

/-- The module has a line for each table, and registers each. -/
theorem moduleText_eq (tables : List Table) :
    moduleText tables = if tables = [] then "" else "\n".intercalate (moduleLines tables) := by
  split
  · rename_i hnil
    rw [hnil]
    rfl
  · rename_i hne
    have himports : tables.map (fun table => entityImport table.name) = tables.map moduleImport :=
      List.map_congr_left fun table _ => entityImport_eq table
    have hmodule : importLine ["Module"] "@nestjs/common" =
        "import \x7b Module \x7d from '@nestjs/common';" := by decide
    have htypeOrm : importLine ["TypeOrmModule"] "@nestjs/typeorm" =
        "import \x7b TypeOrmModule \x7d from '@nestjs/typeorm';" := by decide
    have hopen : "\n\n@Module(\x7b\n" = "\n" ++ "\n" ++ "@Module(\x7b" ++ "\n" := by decide
    have hregistered : "])],\n" = "])]," ++ "\n" := by decide
    have hclose : "  exports: [TypeOrmModule],\n\x7d)\nexport class DatabaseModule \x7b\x7d\n" =
        "  exports: [TypeOrmModule]," ++ "\n" ++ "\x7d)" ++ "\n" ++
          "export class DatabaseModule \x7b\x7d" ++ "\n" := by decide
    rw [moduleText, if_neg (by simpa using hne), moduleLines, himports, hmodule, htypeOrm, hopen,
      hregistered, hclose, String.intercalate_append_of_ne_nil (by simp) (by simp),
      String.intercalate_append_of_ne_nil (by simp) (by simpa using hne)]
    simp only [String.intercalate_cons_cons, String.intercalate_singleton, String.append_assoc,
      String.empty_append, String.append_empty]

theorem nodup_classNames_iff {names : List String} :
    (names.map Naming.className).Nodup ↔
      names.Nodup ∧ ∀ a ∈ names, ∀ b ∈ names, Naming.className a = Naming.className b → a = b := by
  constructor
  · intro h
    have hnames : names.Nodup := h.of_map
    exact ⟨hnames, (List.nodup_map_iff_inj_on hnames).mp h⟩
  · rintro ⟨hnames, hclasses⟩
    exact (List.nodup_map_iff_inj_on hnames).mpr hclasses

/-- **The files of a source.**  A source is converted to one entity file for each name of a table,
in the order in which the names come first and with the entity of the last table of that name, and
then the module; all of them have distinct names.  So no table is without its file just if no two
tables share a name.  The module imports and registers the classes of all tables in their order,
which are distinct just if, besides, no two names of tables have the same class. -/
theorem no_entity_lost_iff (h : (parse mode source).outcome = .ok schema)
    (options : GeneratorOptions) :
    let names := schema.tables.map (·.name)
    (convert mode options .typeOrm source).outcome =
      .ok (entityArtifacts options schema ++
        [⟨"database.module.ts",
          if schema.tables = [] then "" else "\n".intercalate (moduleLines schema.tables)⟩]) ∧
    ((entityArtifacts options schema).map (·.filename) ++ ["database.module.ts"]).Nodup ∧
    (entityArtifacts options schema = schema.tables.map (entityArtifact options schema) ↔
        names.Nodup) ∧
    ((entityArtifacts options schema).length = schema.tables.length ↔ names.Nodup) ∧
    ((names.map Naming.className).Nodup ↔
      names.Nodup ∧
        ∀ a ∈ names, ∀ b ∈ names, Naming.className a = Naming.className b → a = b) := by
  have hrender : (render options .typeOrm schema).value =
      entityArtifacts options schema ++
        [⟨"database.module.ts",
          if schema.tables = [] then "" else "\n".intercalate (moduleLines schema.tables)⟩] := by
    rw [← entityFiles_entities, ← moduleText_eq]
    rfl
  refine ⟨?_, nodup_filenames options schema, entityArtifacts_eq_iff, length_entityArtifacts_eq_iff,
    nodup_classNames_iff⟩
  rw [convert_of_parse h, hrender]

/-- Two tables with different names and classes. -/
def membersSource : String :=
  "Table team \x7b\n  id int [pk]\n\x7d\nTable team_member \x7b\n  id int [pk]\n\x7d"

/-- Teams and their members have a file and a class each. -/
theorem no_entity_lost_iff_of_members :
    ∃ schema, (parse .strict membersSource.toList).outcome = .ok schema ∧
      schema.tables.map (·.name) = ["team", "team_member"] ∧
      (convert .strict {} .typeOrm membersSource.toList).outcome =
        .ok (schema.tables.map (entityArtifact {} schema) ++
          [⟨"database.module.ts", "\n".intercalate (moduleLines schema.tables)⟩]) ∧
      ((schema.tables.map (·.name)).map Naming.className).Nodup := by
  have hparse : (parse .strict membersSource.toList).outcome =
      .ok
        { tables :=
            [{ name := "team", columns := [{ name := "id", type := "int", primaryKey := true }] },
             { name := "team_member"
               columns := [{ name := "id", type := "int", primaryKey := true }] }] } := by
    with_unfolding_all rfl
  obtain ⟨hfiles, -, hartifacts, -, hclasses⟩ := no_entity_lost_iff hparse {}
  refine ⟨_, hparse, rfl, ?_, hclasses.mpr ⟨by decide, by decide⟩⟩
  rw [← hartifacts.mpr (by decide)]
  exact hfiles

/-- Two tables with one name. -/
def sameNameSource : String :=
  "Table a \x7b\n  id int\n\x7d\nTable a \x7b\n  name text\n\x7d"

/-- Two tables whose names differ, but not in their class. -/
def sameClassSource : String :=
  "Table a_b \x7b\n  id int\n\x7d\nTable aB \x7b\n  id int\n\x7d"

/-- **Tables may share a file or a class.**  Of two tables with one name there is but one file, and
the module imports their class twice; and it does so where the names differ in an underscore
alone. -/
theorem one_file_or_class_of_two_tables :
    (∃ schema artifacts, (parse .strict sameNameSource.toList).outcome = .ok schema ∧
      schema.tables.length = 2 ∧
      (convert .strict {} .typeOrm sameNameSource.toList).outcome = .ok artifacts ∧
      artifacts.map (·.filename) = ["a.entity.ts", "database.module.ts"]) ∧
    ∃ schema, (parse .strict sameClassSource.toList).outcome = .ok schema ∧
      schema.tables.map (·.name) = ["a_b", "aB"] ∧
      (schema.tables.map (·.name)).map Naming.className = ["AB", "AB"] := by
  have hname : (parse .strict sameNameSource.toList).outcome =
      .ok
        { tables :=
            [{ name := "a", columns := [{ name := "id", type := "int" }] },
             { name := "a", columns := [{ name := "name", type := "text" }] }] } := by
    with_unfolding_all rfl
  have hclass : (parse .strict sameClassSource.toList).outcome =
      .ok
        { tables :=
            [{ name := "a_b", columns := [{ name := "id", type := "int" }] },
             { name := "aB", columns := [{ name := "id", type := "int" }] }] } := by
    with_unfolding_all rfl
  refine ⟨⟨_, _, hname, rfl, convert_of_parse hname {} .typeOrm, ?_⟩, _, hclass, rfl, ?_⟩
  · decide
  · decide

end Dbml.TypeOrm
