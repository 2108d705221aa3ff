import Dbml.Prisma.Printer

/-!
# The text of a model

A model is written field by field.  The field of a column has its comment on a line in front of it,
and its attributes behind its name and type; the field of a relation names its columns, and an
inverse field nothing but the other model.

* `text_scalarField`, `RelationField.text_eq`: what is written for the two sorts of fields that have
  arguments;
* `isWritten`: so all fields of a model are in its text, and nothing else is.
-/

namespace Dbml.Prisma

/-- What stands on the line in front of a field. -/
def commentText : Option String → String
  | some note => "/// " ++ note ++ "\n  "
  | none => ""

/-- What is written for an attribute. -/
def attributeText : Attribute → String
  | .id => "@id"
  | .unique => "@unique"
  | .default .autoincrement => "@default(autoincrement())"
  | .default .now => "@default(now())"
  | .default (.literal text) => "@default(" ++ text ++ ")"
  | .updatedAt => "@updatedAt"
  | .map column => "@map(\"" ++ column ++ "\")"

/-- The model has its fields in its text, each with its name, its type and what is said of it. -/
structure Model.IsWritten (model : Model) : Prop where
  /-- The fields of columns stand in front of those of relations, with a blank line between them. -/
  text : model.text = "model " ++ model.name ++ " \x7b\n  " ++
    "\n\n  ".intercalate
      (([model.scalars.map ScalarField.text,
        model.relations.map RelationField.text ++ model.inverses.map InverseField.text].filter
          (!·.isEmpty)).map ("\n  ".intercalate ·)) ++ "\n\x7d"
  scalar : ∀ field ∈ model.scalars, field.text =
    commentText field.comment ++ field.name ++ " " ++ field.type ++
      (if field.optional then "?" else "") ++
    String.join (field.attributes.map (" " ++ attributeText ·))
  /-- Behind the two columns of a relation stand the actions on changes. -/
  relation : ∀ field ∈ model.relations, ∃ actions, field.text =
    field.name ++ " " ++ field.model ++ (if field.optional then "?" else "") ++
    " @relation(fields: [" ++ field.column ++ "], references: [" ++ field.reference.column ++ "]" ++
    actions ++ ")"
  inverse : ∀ field ∈ model.inverses, field.text =
    field.name ++ " " ++ field.model ++ (if field.single then "?" else "[]")

theorem Attribute.text_eq (a : Attribute) : a.text = attributeText a := by
  cases a with
  | default value => cases value <;> rfl
  | _ => rfl

theorem intercalate_cons (separator first : String) (texts : List String) :
    separator.intercalate (first :: texts) = first ++ String.join (texts.map (separator ++ ·)) := by
  induction texts generalizing first with
  | nil => simp
  | cons text rest ih =>
      rw [String.intercalate_cons_cons, ih, List.map_cons, String.join_cons]
      simp only [String.append_assoc]

theorem text_scalarField (field : ScalarField) :
    field.text =
      commentText field.comment ++ field.name ++ " " ++ field.type ++
        (if field.optional then "?" else "") ++
      String.join (field.attributes.map (" " ++ attributeText ·)) := by
  have hattributes : (field.attributes.map Attribute.text).map (" " ++ ·) =
      field.attributes.map (" " ++ attributeText ·) := by
    rw [List.map_map]
    exact List.map_congr_left fun a _ => congrArg (" " ++ ·) a.text_eq
  have htext : field.text = commentText field.comment ++ " ".intercalate
      ([field.name, field.type ++ (if field.optional then "?" else "")] ++
        field.attributes.map Attribute.text) := rfl
  rw [htext, List.cons_append, List.singleton_append, intercalate_cons, List.map_cons, hattributes,
    String.join_cons]
  simp only [String.append_assoc]

/-- Behind the two columns of a relation field come the actions on changes. -/
theorem RelationField.text_eq (field : RelationField) :
    ∃ actions, field.text =
      field.name ++ " " ++ field.model ++ (if field.optional then "?" else "") ++
      " @relation(fields: [" ++ field.column ++ "], references: [" ++
        field.reference.column ++ "]" ++
      actions ++ ")" := by
  obtain ⟨more, hmore⟩ : ∃ more, field.arguments =
      ("fields: [" ++ field.column ++ "]") ::
        ("references: [" ++ field.reference.column ++ "]") :: more :=
    ⟨_, List.append_assoc ..⟩
  have hbetween : "], references: [" = "]" ++ (", " ++ "references: [") := by decide
  have hopening : " @relation(fields: [" = " @relation(" ++ "fields: [" := by decide
  refine ⟨String.join (more.map (", " ++ ·)), ?_⟩
  rw [text, hmore, intercalate_cons, List.map_cons, String.join_cons, hbetween, hopening]
  simp only [String.append_assoc]

theorem isWritten (model : Model) : model.IsWritten where
  text := by rw [Model.text, Model.sections_eq]
  scalar := fun field _ => text_scalarField field
  relation := fun field _ => field.text_eq
  inverse := fun _ _ => rfl

end Dbml.Prisma
