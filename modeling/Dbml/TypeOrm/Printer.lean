import Dbml.TypeOrm.Entity

/-!
# Writing TypeORM entities

Each entity has a file of its own, with its imports in front of the class.  One more file declares a
module with all entities.
-/

namespace Dbml.TypeOrm

/-- A text between braces and blanks. -/
def braced (text : String) : String :=
  "\x7b " ++ text ++ " \x7d"

/-- An import of one name or several from a file. -/
def importLine (names : List String) (file : String) : String :=
  "import " ++ braced (", ".intercalate names) ++ " from '" ++ file ++ "';"

/-! ### Decorators -/

namespace Decorator

/-- The name of a decorator. -/
def name : Decorator → String
  | .column .. => "Column"
  | .primaryColumn => "PrimaryColumn"
  | .primaryGeneratedColumn => "PrimaryGeneratedColumn"
  | .createDateColumn => "CreateDateColumn"
  | .updateDateColumn => "UpdateDateColumn"
  | .deleteDateColumn => "DeleteDateColumn"
  | .oneToOne _ => "OneToOne"
  | .oneToMany _ => "OneToMany"
  | .manyToOne _ => "ManyToOne"
  | .joinColumn _ => "JoinColumn"

/-- The options of a column. -/
def columnOptions (type : String) (nullable : Option Bool) (unique : Bool)
    (default : Option DefaultValue) : List String :=
  ["type: '" ++ type ++ "'"] ++
    (nullable.map fun b => if b then "nullable: true" else "nullable: false").toList ++
    (if unique then ["unique: true"] else []) ++
    (default.map ("default: " ++ ·.literal)).toList

/-- The options of a relation, as a further argument. -/
def sideOptions (side : Side) : String :=
  let options :=
    (side.onDelete.map fun action => "onDelete: '" ++ action.sql ++ "'").toList ++
    (side.onUpdate.map fun action => "onUpdate: '" ++ action.sql ++ "'").toList
  if options.isEmpty then "" else ", " ++ braced (", ".intercalate options)

/-- The arguments of a relation: its class, the property that leads back, and its options. -/
def sideArguments (side : Side) : String :=
  let instanceName := Naming.lowerFirst side.target
  "() => " ++ side.target ++ ", " ++ instanceName ++ " => " ++ instanceName ++ "." ++
    side.accessor ++ sideOptions side

/-- The arguments of a decorator. -/
def arguments : Decorator → String
  | .column type nullable unique default =>
    braced (", ".intercalate (columnOptions type nullable unique default))
  | .primaryColumn => ""
  | .primaryGeneratedColumn => "'increment'"
  | .createDateColumn => braced "type: 'timestamptz', default: () => 'CURRENT_TIMESTAMP'"
  | .updateDateColumn =>
    braced ("type: 'timestamptz', default: () => 'CURRENT_TIMESTAMP', " ++
      "onUpdate: 'CURRENT_TIMESTAMP'")
  | .deleteDateColumn => braced "type: 'timestamptz', nullable: true"
  | .oneToOne side | .oneToMany side | .manyToOne side => sideArguments side
  | .joinColumn name => braced ("name: '" ++ name ++ "'")

/-- A decorator as it is written. -/
def text (decorator : Decorator) : String :=
  "@" ++ decorator.name ++ "(" ++ decorator.arguments ++ ")"

end Decorator

/-! ### Entities -/

namespace Property

/-- A property: its comment and its decorators, each on a line of its own, and its declaration. -/
def text (property : Property) : String :=
  let comment := (property.comment.map fun note => "/** " ++ note ++ " */").toList
  "\n  ".intercalate
    (comment ++ property.decorators.map Decorator.text ++
      [property.name ++ ": " ++ property.type ++ ";"])

end Property

/-- The file of a table's entity, without its extension. -/
def entityFile (table : String) : String :=
  table ++ ".entity"

/-- The line that imports the entity of a table. -/
def entityImport (table : String) : String :=
  importLine [Naming.className table] ("./" ++ entityFile table)

/-- The text of an entity's file. -/
def Entity.text (entity : Entity) : String :=
  let imports :=
    importLine (entity.decorators.kinds.map (·.name)) "typeorm" :: entity.related.map entityImport
  "\n".intercalate imports ++ "\n\n@Entity('" ++ entity.table ++ "')\nexport class " ++
    entity.className ++ " \x7b\n  " ++
    "\n\n  ".intercalate (entity.properties.map Property.text) ++ "\n\x7d\n"

/-! ### The module -/

/-- The text of the module that registers all entities; empty when there are none. -/
def moduleText (tables : List Table) : String :=
  if tables.isEmpty then ""
  else
    importLine ["Module"] "@nestjs/common" ++ "\n" ++
    importLine ["TypeOrmModule"] "@nestjs/typeorm" ++ "\n" ++
    "\n".intercalate (tables.map (entityImport ·.name)) ++ "\n\n@Module(\x7b\n" ++
    "  imports: [TypeOrmModule.forFeature([" ++
    ", ".intercalate (tables.map (Naming.className ·.name)) ++ "])],\n" ++
    "  exports: [TypeOrmModule],\n\x7d)\nexport class DatabaseModule \x7b\x7d\n"

/-- The files of several entities with their names.  Of two entities with one name the later text
counts, in the place of the earlier one. -/
def entityFiles (entities : List Entity) : Keyed String :=
  entities.foldl (fun files entity =>
    Keyed.set (entityFile entity.table ++ ".ts") entity.text files) []

end Dbml.TypeOrm
