import Dbml.Proofs.TypeOrm.Building

/-!
# The text of an entity

The file of an entity has its imports in front, then the head of the class, and then the texts of
its properties.  A property is written as a comment and decorators, each on a line of its own, and
then its name and type.

* `isWritten_entity`: so every property of an entity is in its file, and nothing else is in the
  class;
* `text_valueProperty`, `text_relationProperty`, `text_reverseProperty`: what is written for the
  three sorts of properties;
* `isEntityText_entity`: the file of a table, column by column and then table by table.
-/

namespace Dbml.TypeOrm

/-- The text is a file with the class of a table, in which these are the texts of the properties. -/
def IsEntityText (table : String) (properties : List String) (text : String) : Prop :=
  ∃ imports : List String,
    text = "\n".intercalate imports ++ "\n\n@Entity('" ++ table ++ "')\nexport class " ++
      Naming.className table ++ " \x7b\n  " ++ "\n\n  ".intercalate properties ++ "\n\x7d\n"

/-- What is in front of the decorators of a property. -/
def commentText : Option String → String
  | some note => "/** " ++ note ++ " */\n  "
  | none => ""

/-- The file of an entity has its properties in it, each with its decorators, its name and its
type. -/
structure Entity.IsWritten (entity : Entity) : Prop where
  text : IsEntityText entity.table (entity.properties.map Property.text) entity.text
  property : ∀ property ∈ entity.properties,
    property.text = commentText property.comment ++
      String.join (property.decorators.map (·.text ++ "\n  ")) ++ property.name ++ ": " ++
        property.type ++ ";"

/-- What a foreign key says to be done on changes, as the last argument of its decorator. -/
def actionsText (reference : Reference) : String :=
  match reference.onDelete, reference.onUpdate with
  | none, none => ""
  | some delete, none => ", \x7b onDelete: '" ++ delete.sql ++ "' \x7d"
  | none, some update => ", \x7b onUpdate: '" ++ update.sql ++ "' \x7d"
  | some delete, some update =>
    ", \x7b onDelete: '" ++ delete.sql ++ "', onUpdate: '" ++ update.sql ++ "' \x7d"

/-- The decorator of a relation to entities of a class, from which the accessor leads back. -/
def relationText (relation target accessor actions : String) : String :=
  "@" ++ relation ++ "(() => " ++ target ++ ", " ++ Naming.lowerFirst target ++ " => " ++
    Naming.lowerFirst target ++ "." ++ accessor ++ actions ++ ")"

/-- The relation that a decorator is for. -/
def Decorator.side? : Decorator → Option Side
  | .oneToOne side | .oneToMany side | .manyToOne side => some side
  | _ => none

/-- The text of a column's property, if it has one. -/
def columnText? (options : GeneratorOptions) (schema : Schema) (table : Table) (column : Column) :
    Option String :=
  (columnProperty? options schema table column).map Property.text

/-- The texts of the properties for the keys that another table has to a table. -/
def reverseTexts (table other : Table) : List String :=
  (reversePropertiesFrom table other).map Property.text

variable {options : GeneratorOptions} {schema : Schema} {table other related : Table}
  {column : Column}
  {reference : Reference}

/-! ### Properties -/

theorem intercalate_concat (separator last : String) (texts : List String) :
    separator.intercalate (texts ++ [last]) = String.join (texts.map (· ++ separator)) ++ last := by
  induction texts with
  | nil => simp
  | cons text rest ih =>
      rw [List.cons_append, String.intercalate_cons_of_ne_nil (by simp), ih, List.map_cons,
        String.join_cons]
      simp only [String.append_assoc]

/-- A property is written line by line. -/
theorem Property.text_eq (property : Property) :
    property.text = commentText property.comment ++
      String.join (property.decorators.map (·.text ++ "\n  ")) ++ property.name ++ ": " ++
        property.type ++ ";" := by
  have hcomment : String.join ((property.comment.map fun note => "/** " ++ note ++ " */").toList.map
      (· ++ "\n  ")) = commentText property.comment := by
    cases property.comment with
    | none => rfl
    | some note => simp [commentText, String.append_assoc]
  rw [text, intercalate_concat, List.map_append, String.join_append, hcomment, List.map_map]
  simp only [String.append_assoc, Function.comp_def]

theorem text_valueProperty (options : GeneratorOptions) (column : Column) (decorator : Decorator) :
    (valueProperty options column decorator).text =
      commentText (options.comment? column) ++ decorator.text ++ "\n  " ++ column.name ++ ": " ++
        ColumnType.typeScript column.type ++ ";" := by
  rw [Property.text_eq, valueProperty, List.map_singleton, String.join_cons, String.join_nil,
    String.append_empty]
  simp only [String.append_assoc]

theorem sideOptions_eq (reference : Reference) (target accessor : String) :
    Decorator.sideOptions
        { target, accessor, onDelete := reference.onDelete, onUpdate := reference.onUpdate } =
      actionsText reference := by
  obtain ⟨_, _, _, onUpdate, onDelete⟩ := reference
  apply String.toList_injective
  cases onDelete <;> cases onUpdate <;> simp [Decorator.sideOptions, actionsText, braced]

theorem text_of_side? {decorator : Decorator} {side : Side} (h : decorator.side? = some side) :
    decorator.text =
      relationText decorator.name side.target side.accessor (Decorator.sideOptions side) := by
  have harguments : decorator.arguments = Decorator.sideArguments side := by
    cases decorator <;> cases h <;> rfl
  have hopening : "(() => " = "(" ++ "() => " := by decide
  rw [Decorator.text, harguments]
  -- the equations of these two are slow to make, and are not needed
  unfold Decorator.sideArguments relationText
  simp only [hopening, String.append_assoc]

theorem text_oneToOne (side : Side) : (Decorator.oneToOne side).text =
    relationText "OneToOne" side.target side.accessor (Decorator.sideOptions side) :=
  text_of_side? rfl

theorem text_manyToOne (side : Side) : (Decorator.manyToOne side).text =
    relationText "ManyToOne" side.target side.accessor (Decorator.sideOptions side) :=
  text_of_side? rfl

theorem text_oneToMany (side : Side) : (Decorator.oneToMany side).text =
    relationText "OneToMany" side.target side.accessor (Decorator.sideOptions side) :=
  text_of_side? rfl

theorem text_relationProperty (options : GeneratorOptions) (table : Table) (column : Column)
    (reference : Reference) (related : Table) :
    (relationProperty options table column reference related).text =
      commentText (options.comment? column) ++
        relationText (if column.isOneToOneKey then "OneToOne" else "ManyToOne")
          (Naming.className related.name)
          (if column.isOneToOneKey then Naming.lowerFirst (Naming.className table.name)
            else Naming.plural (Naming.className table.name)) (actionsText reference) ++
        "\n  @JoinColumn(\x7b name: '" ++ column.name ++ "' \x7d)\n  " ++
        Naming.lowerFirst (Naming.className related.name) ++ ": " ++
          Naming.className related.name ++ ";" := by
  have hjoin : ∀ name, "\n  " ++ (Decorator.joinColumn name).text ++ "\n  " =
      "\n  @JoinColumn(\x7b name: '" ++ name ++ "' \x7d)\n  " := fun name =>
    String.toList_injective (by simp [Decorator.text, Decorator.name, Decorator.arguments, braced])
  simp only [Property.text_eq, relationProperty, List.map_cons, List.map_nil, String.join_cons,
    String.join_nil, String.append_empty]
  cases column.isOneToOneKey with
  | true =>
      simp only [if_true, text_oneToOne, sideOptions_eq, ← hjoin, String.append_assoc]
  | false =>
      simp only [Bool.false_eq_true, if_false, text_manyToOne, sideOptions_eq, ← hjoin,
        String.append_assoc]

theorem text_reverseProperty (table other : Table) (column : Column) :
    (reverseProperty table other column).text =
      relationText (if column.isOneToOneKey then "OneToOne" else "OneToMany")
          (Naming.className other.name) (Naming.lowerFirst (Naming.className table.name)) "" ++ "\n  " ++
        (if column.isOneToOneKey then Naming.lowerFirst (Naming.className other.name)
          else Naming.plural (Naming.className other.name)) ++ ": " ++
        Naming.className other.name ++ (if column.isOneToOneKey then "" else "[]") ++ ";" := by
  have hoptions : ∀ target accessor, Decorator.sideOptions { target, accessor } = "" :=
    fun _ _ => rfl
  simp only [Property.text_eq, reverseProperty]
  cases column.isOneToOneKey with
  | true =>
      simp only [if_true, List.map_cons, List.map_nil, String.join_cons, String.join_nil,
        String.append_empty, text_oneToOne, hoptions, commentText, String.empty_append]
  | false =>
      simp only [Bool.false_eq_true, if_false, List.map_cons, List.map_nil, String.join_cons,
        String.join_nil, String.append_empty, text_oneToMany, hoptions, commentText,
        String.empty_append, String.append_assoc]

/-! ### Entities -/

theorem isEntityText (entity : Entity) :
    IsEntityText entity.table (entity.properties.map Property.text) entity.text :=
  ⟨_, rfl⟩

/-- Every entity has its properties in its file. -/
theorem isWritten (entity : Entity) : entity.IsWritten where
  text := isEntityText entity
  property := fun property _ => property.text_eq

/-- The file of a table: the properties of its columns, and those for the keys of the other
tables. -/
theorem isEntityText_entity (options : GeneratorOptions) (schema : Schema) (table : Table) :
    IsEntityText table.name
      (table.columns.filterMap (columnText? options schema table) ++
        (schema.tables.filter (·.name ≠ table.name)).flatMap (reverseTexts table))
      (entity options schema table).value.text := by
  have htext := isEntityText (entity options schema table).value
  rw [entity_table, entity_properties, List.map_append, List.map_filterMap, reverseProperties,
    List.map_flatMap]
    at htext
  exact htext

end Dbml.TypeOrm
