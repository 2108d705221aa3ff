import Dbml.Prisma.Printer
import Dbml.Source.Parse
import Dbml.TypeOrm.Printer

/-!
# Artifacts

A schema is written as files of one of several formats: JSON, TypeORM entities or a Prisma schema.
-/

namespace Dbml

/-- A file that is generated. -/
structure Artifact where
  filename : String
  content : String
  deriving DecidableEq, Repr

/-- The formats that schemas are written in. -/
inductive OutputFormat where
  | json
  | typeOrm
  | prisma
  deriving DecidableEq, Repr

/-- A format was asked for that does not exist. -/
structure UnknownFormat where
  given : String
  deriving DecidableEq, Repr

/-- The wording of the error. -/
def UnknownFormat.message (error : UnknownFormat) : String :=
  "Unknown output format `" ++ error.given ++ "` (expected json, typeorm or prisma)"

namespace OutputFormat

/-- The name of a format. -/
def name : OutputFormat → String
  | .json => "json"
  | .typeOrm => "typeorm"
  | .prisma => "prisma"

/-- The format of a name, in whatever case. -/
def ofName (name : String) : Except UnknownFormat OutputFormat :=
  match Text.lowercaseString name with
  | "json" => .ok .json
  | "typeorm" => .ok .typeOrm
  | "prisma" => .ok .prisma
  | _ => .error ⟨name⟩

end OutputFormat

/-- The files of a schema in a format. -/
def render (options : GeneratorOptions) (format : OutputFormat) (schema : Schema) :
    Traced (List Artifact) :=
  match format with
  | .json => return [⟨"schema.json", schema.jsonText⟩]
  | .typeOrm => do
    let entities ← TypeOrm.entities options schema schema.tables
    let files := (TypeOrm.entityFiles entities).map fun (name, text) => Artifact.mk name text
    return files ++ [⟨"database.module.ts", TypeOrm.moduleText schema.tables⟩]
  | .prisma => do
    let text ← Prisma.file options schema
    return [⟨"schema.prisma", text⟩]

/-- The files that a source is converted to. -/
def convert (mode : Mode) (options : GeneratorOptions) (format : OutputFormat)
    (source : List Char) : Parsing (List Artifact) := do
  let schema ← parse mode source
  ExceptT.lift (render options format schema)

/-- The schema of a source, read leniently, as a JSON text. -/
def sourceToJson (source : List Char) : Except ParseError String :=
  (parse .lenient source).outcome.map Schema.jsonText

end Dbml
