import Dbml.Prisma.Model

/-!
# Writing Prisma schemas

The schema file declares the client, the data source and one model after another.
-/

namespace Dbml.Prisma

/-! ### Fields -/

namespace FieldDefault

def text : FieldDefault → String
  | .autoincrement => "autoincrement()"
  | .now => "now()"
  | .literal text => text

end FieldDefault

namespace Attribute

def text : Attribute → String
  | .id => "@id"
  | .unique => "@unique"
  | .default value => "@default(" ++ value.text ++ ")"
  | .updatedAt => "@updatedAt"
  | .map column => "@map(\"" ++ column ++ "\")"

end Attribute

namespace ScalarField

/-- A field: its comment on a line before it, its name, its type and its attributes. -/
def text (field : ScalarField) : String :=
  let comment :=
    match field.comment with
    | some note => "/// " ++ note ++ "\n  "
    | none => ""
  comment ++ " ".intercalate
    ([field.name, field.type ++ (if field.optional then "?" else "")] ++
      field.attributes.map Attribute.text)

end ScalarField

namespace RelationField

/-- The arguments of a relation: the columns it joins, and what happens on changes. -/
def arguments (field : RelationField) : List String :=
  ["fields: [" ++ field.column ++ "]", "references: [" ++ field.reference.column ++ "]"] ++
    (field.reference.onDelete.map ("onDelete: " ++ ·.prisma)).toList ++
    (field.reference.onUpdate.map ("onUpdate: " ++ ·.prisma)).toList

def text (field : RelationField) : String :=
  field.name ++ " " ++ field.model ++ (if field.optional then "?" else "") ++
    " @relation(" ++ ", ".intercalate field.arguments ++ ")"

end RelationField

namespace InverseField

def text (field : InverseField) : String :=
  field.name ++ " " ++ field.model ++ (if field.single then "?" else "[]")

end InverseField

/-! ### Models and files -/

namespace Model

/-- The scalar fields and, after a blank line, the relation fields.  A section without fields is
left out. -/
def sections (model : Model) : List String :=
  [model.scalars.map ScalarField.text,
   model.relations.map RelationField.text ++ model.inverses.map InverseField.text].filterMap
    fun fields => if fields.isEmpty then none else some ("\n  ".intercalate fields)

def text (model : Model) : String :=
  "model " ++ model.name ++ " \x7b\n  " ++ "\n\n  ".intercalate model.sections ++ "\n\x7d"

/-- The sections have the texts of all fields, each on lines of its own. -/
theorem sections_eq (model : Model) :
    model.sections =
      ([model.scalars.map ScalarField.text,
        model.relations.map RelationField.text ++ model.inverses.map InverseField.text].filter
          (!·.isEmpty)).map ("\n  ".intercalate ·) := by
  rw [sections]
  generalize model.relations.map RelationField.text ++ model.inverses.map InverseField.text =
    relations
  cases hscalars : model.scalars.map ScalarField.text <;> cases relations <;> rfl

end Model

/-- The text of a schema file. -/
def fileText (provider : String) (models : List Model) : String :=
  "generator client \x7b\n  provider = \"prisma-client-js\"\n\x7d\n\n" ++
  "datasource db \x7b\n  provider = \"" ++ provider ++ "\"\n" ++
  "  url      = env(\"DATABASE_URL\")\n\x7d\n\n" ++
  "\n\n".intercalate (models.map Model.text) ++ "\n"

/-- The schema file of a schema.  All models are made before the provider is determined. -/
def file (options : GeneratorOptions) (schema : Schema) : Traced String := do
  let models ← models options schema schema.tables
  let provider ← provider options schema
  return fileText provider models

end Dbml.Prisma
