import Dbml.Proofs.Text.Comments
import Dbml.Proofs.Text.Joined
import Dbml.Proofs.TypeOrm.Imports

/-!
# Notes in entities

The note on a column is written in front of its property, between the signs of a comment, as it is.
So it may end the comment by itself.

* `entity_bare`: without comments the entity is the same but for the comments of its properties;
* `text_entity`, `text_entity_bare`: its text is made of parts with comments in front of some, and
  the text without comments of the same parts alone;
* `notesVanish_iff`: which comments there are, told from the columns.

`withoutComments_entity_iff` says when taking the comments out gives the text without comments.
-/

namespace Dbml.TypeOrm

open Text

/-- The column has a property: it holds its value, or the entity of a table that exists. -/
def hasProperty (schema : Schema) (column : Column) : Bool :=
  holdsValue column || (relatedTable? schema column).isSome

/-- The comment for each note of the table that is written is gone when comments are taken out of it
alone. -/
def NotesVanish (schema : Schema) (table : Table) : Prop :=
  ∀ column ∈ table.columns, hasProperty schema column = true → ∀ note ∈ column.note,
    withoutComments (comment note.toList) = []

/-- The property without its comment. -/
def Property.bare (property : Property) : Property :=
  { property with comment := none }

/-- The entity without the comments of its properties. -/
def Entity.bare (entity : Entity) : Entity :=
  { entity with properties := entity.properties.map Property.bare }

/-- The text of an entity's file in front of its properties. -/
def Entity.head (entity : Entity) : String :=
  "\n".intercalate
      (importLine (entity.decorators.kinds.map (·.name)) "typeorm" ::
        entity.related.map entityImport) ++
    "\n\n@Entity('" ++ entity.table ++ "')\nexport class " ++ entity.className ++ " \x7b\n  "

/-- A property with what stands behind it. -/
def Property.part (property : Property) (behind : String) : Part where
  note := property.comment.map String.toList
  text := (property.bare.text ++ behind).toList

/-- The properties of an entity, each with what stands behind it. -/
def propertyParts : List Property → List Part
  | [] => []
  | [property] => [property.part "\n\x7d\n"]
  | property :: next :: rest => property.part "\n\n  " :: propertyParts (next :: rest)

/-- The parts of an entity's text. -/
def Entity.parts (entity : Entity) : List Part :=
  { note := none
    text := (entity.head ++ if entity.properties.isEmpty then "\n\x7d\n" else "").toList } ::
    propertyParts entity.properties

variable {options bare : GeneratorOptions} {schema : Schema} {table : Table} {column : Column}

/-! ### Entities without comments -/

/-- Only the comment of a column's property depends on the options. -/
theorem columnProperty?_eq (options other : GeneratorOptions) (schema : Schema) (table : Table)
    (column : Column) :
    columnProperty? options schema table column =
      (columnProperty? other schema table column).map fun property =>
        { property with comment := options.comment? column } := by
  cases hvalue : holdsValue column with
  | true =>
      rw [columnProperty?_of_holdsValue hvalue, columnProperty?_of_holdsValue hvalue]
      rfl
  | false =>
      rw [columnProperty?_of_not_holdsValue hvalue, columnProperty?_of_not_holdsValue hvalue,
        Option.map_bind]
      refine congrArg column.reference.bind (funext fun reference => ?_)
      rw [Function.comp_apply, Option.map_map]
      rfl

theorem columnProperty?_bare (hbare : bare.comments = false) (column : Column) :
    columnProperty? bare schema table column =
      (columnProperty? options schema table column).map Property.bare := by
  have hnone : bare.comment? column = none := by
    rw [GeneratorOptions.comment?, hbare, if_neg Bool.false_ne_true]
  rw [columnProperty?_eq bare options, hnone]
  rfl

theorem comment_of_columnProperty? {property : Property}
    (h : columnProperty? options schema table column = some property) :
    property.comment = options.comment? column := by
  have heq := columnProperty?_eq options options schema table column
  rw [h, Option.map_some] at heq
  exact congrArg Property.comment (Option.some.inj heq)

theorem comment_reverseProperty (table other : Table) (column : Column) :
    (reverseProperty table other column).comment = none := by
  unfold reverseProperty
  dsimp only
  split <;> rfl

theorem exists_of_mem_reverseProperties {property : Property}
    (h : property ∈ reverseProperties schema table) :
    ∃ other column, property = reverseProperty table other column := by
  rw [reverseProperties_eq] at h
  obtain ⟨⟨other, column⟩, -, rfl⟩ := List.mem_map.mp h
  exact ⟨other, column, rfl⟩

/-- Without comments an entity has the same properties. -/
theorem entity_bare (hbare : bare.comments = false) (options : GeneratorOptions) (schema : Schema)
    (table : Table) :
    (entity bare schema table).value = (entity options schema table).value.bare := by
  have hreverse : (reverseProperties schema table).map Property.bare =
      reverseProperties schema table := by
    refine List.map_congr_left (fun property hproperty => ?_) |>.trans (List.map_id _)
    obtain ⟨other, column, rfl⟩ := exists_of_mem_reverseProperties hproperty
    rw [Property.bare, ← comment_reverseProperty table other column]
    rfl
  have hproperties : (entity bare schema table).value.properties =
      (entity options schema table).value.properties.map Property.bare := by
    rw [entity_properties, entity_properties, List.map_append, hreverse, List.map_filterMap]
    refine congrArg (· ++ reverseProperties schema table) ?_
    exact List.filterMap_congr fun column _ => columnProperty?_bare hbare column
  have hkinds : ∀ kind, UsesKind (entity bare schema table).value.properties kind ↔
      UsesKind (entity options schema table).value.properties kind := by
    intro kind
    simp [hproperties, UsesKind, Property.bare]
  refine Entity.eq_of_mem_iff ?_ (fun kind => ?_) ?_ hproperties
  · rw [Entity.bare, entity_table, entity_table]
  · rw [mem_decorators_entity, hkinds]
    exact (mem_decorators_entity options schema table kind).symm
  · rw [Entity.bare, related_entity, related_entity]

theorem isSome_columnProperty? (options : GeneratorOptions) (schema : Schema) (table : Table)
    (column : Column) :
    (columnProperty? options schema table column).isSome = hasProperty schema column := by
  rw [hasProperty]
  cases hvalue : holdsValue column with
  | true => rw [columnProperty?_of_holdsValue hvalue, Option.isSome_some, Bool.true_or]
  | false =>
      have hname := @name_columnProperty?_of_not_holdsValue options schema table column hvalue
      rw [Bool.false_or, ← Option.isSome_map, hname, Option.isSome_map]

theorem comments_columnProperties (hcomments : options.comments = true) (schema : Schema)
    (table : Table) (columns : List Column) :
    (columns.filterMap fun column =>
        (columnProperty? options schema table column)).filterMap (·.comment) =
      (columns.filter (hasProperty schema)).filterMap (·.note) := by
  induction columns with
  | nil => rfl
  | cons column rest ih =>
      have hwritten := isSome_columnProperty? options schema table column
      rw [List.filterMap_cons]
      cases hproperty : (columnProperty? options schema table column) with
      | none =>
          rw [hproperty, Option.isSome_none] at hwritten
          rw [List.filter_cons_of_neg (by rw [← hwritten]; exact Bool.false_ne_true)]
          exact ih
      | some property =>
          rw [hproperty, Option.isSome_some] at hwritten
          have hcomment : property.comment = column.note := by
            rw [comment_of_columnProperty? hproperty, GeneratorOptions.comment?, if_pos hcomments]
          rw [List.filter_cons_of_pos hwritten.symm, List.filterMap_cons, List.filterMap_cons,
            hcomment]
          cases column.note with
          | none => exact ih
          | some note => exact congrArg (note :: ·) ih

/-- The comments in an entity are the notes on the columns that have properties. -/
theorem comments_entity (hcomments : options.comments = true) (schema : Schema) (table : Table) :
    (entity options schema table).value.properties.filterMap (·.comment) =
      (table.columns.filter (hasProperty schema)).filterMap (·.note) := by
  have hreverse : (reverseProperties schema table).filterMap (·.comment) = [] := by
    rw [List.filterMap_eq_nil_iff]
    intro property hproperty
    obtain ⟨other, column, rfl⟩ := exists_of_mem_reverseProperties hproperty
    exact comment_reverseProperty table other column
  rw [entity_properties, List.filterMap_append, hreverse, List.append_nil]
  exact comments_columnProperties hcomments schema table table.columns

theorem decorators_ne_nil {property : Property}
    (h : property ∈ (entity options schema table).value.properties) : property.decorators ≠ [] := by
  rw [entity_properties] at h
  rcases List.mem_append.mp h with hcolumn | hreverse
  · obtain ⟨column, -, hproperty⟩ := List.mem_filterMap.mp hcolumn
    cases hvalue : holdsValue column with
    | true =>
        rw [columnProperty?_of_holdsValue hvalue] at hproperty
        cases hproperty
        exact List.cons_ne_nil _ _
    | false =>
        rw [columnProperty?_of_not_holdsValue hvalue] at hproperty
        obtain ⟨reference, -, hrelated⟩ := Option.bind_eq_some_iff.mp hproperty
        obtain ⟨related, -, rfl⟩ := Option.map_eq_some_iff.mp hrelated
        exact List.cons_ne_nil _ _
  · obtain ⟨other, column, rfl⟩ := exists_of_mem_reverseProperties hreverse
    unfold reverseProperty
    dsimp only
    split <;> exact List.cons_ne_nil _ _

/-! ### The text of an entity -/

/-- The comment of a property is written in front of what is written without it. -/
theorem text_append {property : Property} (hdecorators : property.decorators ≠ [])
    (behind : String) :
    (property.text ++ behind).toList =
      (property.part behind).comment ++ (property.part behind).text := by
  obtain ⟨decorator, others, hcons⟩ := List.exists_cons_of_ne_nil hdecorators
  rw [Part.comment, Property.part]
  cases hcomment : property.comment with
  | none =>
      have hbare : property.bare = property := by rw [Property.bare, ← hcomment]
      rw [hbare]
      rfl
  | some note =>
      have htext : property.text = "/** " ++ note ++ " */" ++ "\n  " ++ property.bare.text := by
        rw [Property.text, Property.text, hcomment, Property.bare, hcons]
        exact String.intercalate_cons_cons
      have hending : " */\n  ".toList = " */".toList ++ "\n  ".toList := by decide
      rw [htext, Option.map_some, Option.elim_some, comment, hending]
      simp only [String.toList_append, List.append_assoc]

theorem commented_propertyParts {properties : List Property}
    (hdecorators : ∀ property ∈ properties, property.decorators ≠ []) (hne : properties ≠ []) :
    commented (propertyParts properties) =
      ("\n\n  ".intercalate (properties.map Property.text) ++ "\n\x7d\n").toList := by
  induction properties with
  | nil => contradiction
  | cons property rest ih =>
      obtain ⟨hfirst, hothers⟩ := List.forall_mem_cons.mp hdecorators
      cases rest with
      | nil =>
          rw [propertyParts, commented, List.flatMap_singleton, ← text_append hfirst,
            List.map_singleton, String.intercalate_singleton]
      | cons next rest =>
          rw [propertyParts, commented, List.flatMap_cons, ← commented,
            ih hothers (List.cons_ne_nil _ _), ← text_append hfirst, List.map_cons, List.map_cons,
            List.map_cons, String.intercalate_cons_cons, ← String.toList_append]
          simp only [String.append_assoc]

theorem text_eq_commented {entity : Entity}
    (hdecorators : ∀ property ∈ entity.properties, property.decorators ≠ []) :
    entity.text.toList = commented entity.parts := by
  have htext : entity.text = entity.head ++
      ("\n\n  ".intercalate (entity.properties.map Property.text) ++ "\n\x7d\n") := by
    rw [Entity.text, Entity.head]
    simp only [String.append_assoc]
  rw [htext, String.toList_append, Entity.parts, commented, List.flatMap_cons, ← commented]
  cases hproperties : entity.properties with
  | nil => simp [propertyParts, commented, Part.comment]
  | cons property rest =>
      rw [hproperties] at hdecorators
      rw [commented_propertyParts hdecorators (List.cons_ne_nil property rest)]
      simp [Part.comment]

/-- Without its comments an entity has the same parts without theirs. -/
theorem commented_parts_bare (entity : Entity) :
    commented entity.bare.parts = plain entity.parts := by
  have hhead : entity.bare.head = entity.head := rfl
  have hproperties : ∀ properties : List Property,
      commented (propertyParts (properties.map Property.bare)) =
        plain (propertyParts properties) := by
    intro properties
    induction properties with
    | nil => rfl
    | cons property rest ih =>
        cases rest with
        | nil => rfl
        | cons next rest =>
          rw [List.map_cons, List.map_cons, propertyParts, propertyParts, commented,
            List.flatMap_cons, plain, List.flatMap_cons]
          exact congrArg (_ ++ ·) ih
  rw [Entity.parts, Entity.parts, hhead, commented, List.flatMap_cons, plain, List.flatMap_cons,
    ← commented, ← plain, ← hproperties, Entity.bare, List.isEmpty_map]
  rfl

theorem notes_propertyParts (properties : List Property) :
    (propertyParts properties).filterMap Part.note =
      (properties.filterMap (·.comment)).map String.toList := by
  have hcons : ∀ (property : Property) (behind : String) (parts : List Part) (rest : List Property),
      parts.filterMap Part.note = (rest.filterMap (·.comment)).map String.toList →
      (property.part behind :: parts).filterMap Part.note =
        ((property :: rest).filterMap (·.comment)).map String.toList := by
    intro property behind parts rest h
    rw [List.filterMap_cons, h, List.filterMap_cons, Property.part]
    cases property.comment <;> rfl
  induction properties with
  | nil => rfl
  | cons property rest ih =>
      cases rest with
      | nil => exact hcons property _ [] [] rfl
      | cons next rest => exact hcons property _ _ _ ih

/-- The comments of an entity's parts are those for the notes on the columns that have
properties. -/
theorem notesVanish_iff (hcomments : options.comments = true) (schema : Schema) (table : Table) :
    NotesVanish schema table ↔
      ∀ part ∈ (entity options schema table).value.parts, withoutComments part.comment = [] := by
  have hnotes : (entity options schema table).value.parts.filterMap Part.note =
      ((table.columns.filter (hasProperty schema)).filterMap (·.note)).map String.toList := by
    rw [← comments_entity hcomments, ← notes_propertyParts, Entity.parts, List.filterMap_cons]
  rw [comments_vanish_iff, hnotes, NotesVanish]
  simp only [List.mem_map, List.mem_filterMap, List.mem_filter, forall_exists_index, and_imp]
  constructor
  · rintro h _ note column hcolumn hproperty hnote rfl
    exact h column hcolumn hproperty note hnote
  · intro h column hcolumn hproperty note hnote
    exact h _ note column hcolumn hproperty hnote rfl

/-! ### Beginnings and ends of the parts -/

theorem apart_of_head {part : Part} {c : Char} (hc : c ≠ '*' ∧ c ≠ ' ' ∧ c ≠ '\n')
    (more : List Char)
    {behind : List Char} (htext : part.text = c :: (more ++ behind)) (hbehind : Finished behind)
    (hne : behind ≠ []) : part.Apart where
  fresh := by
    rw [htext]
    constructor <;> intro d hd <;> cases hd
    · exact hc.2
    · exact hc.1
  finished := by
    rw [htext]
    exact hbehind.append hne (c :: more)
  nonempty := by
    rw [htext]
    exact List.cons_ne_nil _ _

theorem apart_part {property : Property} (hdecorators : property.decorators ≠ []) {behind : String}
    (hbehind : Finished behind.toList) (hne : behind.toList ≠ []) :
      (property.part behind).Apart := by
  obtain ⟨decorator, others, hcons⟩ := List.exists_cons_of_ne_nil hdecorators
  obtain ⟨more, hmore⟩ : ∃ more, property.bare.text = decorator.text ++ more := by
    rw [Property.text, Property.bare, hcons]
    exact exists_intercalate_cons _ _ _
  refine apart_of_head (by decide : '@' ≠ '*' ∧ '@' ≠ ' ' ∧ '@' ≠ '\n')
    (decorator.name ++ "(" ++ decorator.arguments ++ ")" ++ more).toList ?_ hbehind hne
  rw [Property.part, hmore, Decorator.text]
  simp only [String.toList_append, List.append_assoc]
  rfl

theorem apart_propertyParts {properties : List Property}
    (hdecorators : ∀ property ∈ properties, property.decorators ≠ []) :
    ∀ part ∈ propertyParts properties, part.Apart := by
  have hblank : Finished "\n\n  ".toList := by
    intro c hc
    cases hc
    decide
  have hclose : Finished "\n\x7d\n".toList := by
    intro c hc
    cases hc
    decide
  induction properties with
  | nil => nofun
  | cons property rest ih =>
      obtain ⟨hfirst, hothers⟩ := List.forall_mem_cons.mp hdecorators
      cases rest with
      | nil =>
          rw [propertyParts, List.forall_mem_singleton]
          exact apart_part hfirst hclose (by decide)
      | cons next rest =>
          rw [propertyParts, List.forall_mem_cons]
          exact ⟨apart_part hfirst hblank (by decide), ih hothers⟩

theorem apart_parts {entity : Entity}
    (hdecorators : ∀ property ∈ entity.properties, property.decorators ≠ []) :
    ∀ part ∈ entity.parts, part.Apart := by
  rw [Entity.parts, List.forall_mem_cons]
  refine ⟨?_, apart_propertyParts hdecorators⟩
  obtain ⟨more, hmore⟩ := exists_intercalate_cons "\n"
    (importLine (entity.decorators.kinds.map (·.name)) "typeorm")
    (entity.related.map entityImport)
  obtain ⟨closing, hclosing⟩ : ∃ closing,
      closing = (if entity.properties.isEmpty then "\n\x7d\n" else "") := ⟨_, rfl⟩
  have hbehind : Finished (" \x7b\n  ".toList ++ closing.toList) := by
    intro c hc
    rw [hclosing] at hc
    split at hc <;> cases hc <;> decide
  refine apart_of_head (by decide : 'i' ≠ '*' ∧ 'i' ≠ ' ' ∧ 'i' ≠ '\n')
    ("mport ".toList ++ (braced (", ".intercalate (entity.decorators.kinds.map (·.name))) ++
      " from '" ++ "typeorm" ++
      "';" ++ more ++ "\n\n@Entity('" ++ entity.table ++ "')\nexport class " ++
        entity.className).toList)
    ?_ hbehind (by simp)
  have himport : "import ".toList = 'i' :: "mport ".toList := by decide
  rw [← hclosing, Entity.head, hmore, importLine]
  simp only [String.toList_append, List.append_assoc, himport, List.cons_append]

/-! ### Taking out the comments of an entity -/

/-- With comments, the text of an entity is its parts with theirs. -/
theorem text_entity (options : GeneratorOptions) (schema : Schema) (table : Table) :
    (entity options schema table).value.text.toList =
      commented (entity options schema table).value.parts :=
  text_eq_commented fun _ => decorators_ne_nil

/-- Without comments, it is the same parts alone. -/
theorem text_entity_bare (hbare : bare.comments = false) (options : GeneratorOptions)
    (schema : Schema) (table : Table) :
    (entity bare schema table).value.text.toList =
      plain (entity options schema table).value.parts := by
  rw [text_entity, entity_bare hbare options, commented_parts_bare]

/-- **Notes in an entity.**  If each comment for a note alone vanishes, or no comment begins in what
is written besides them, then taking the comments out of an entity gives the one without comments
just if both is so. -/
theorem withoutComments_entity_iff (hcomments : options.comments = true)
    (hbare : bare.comments = false) (schema : Schema) (table : Table)
    (heither : NotesVanish schema table ∨
      AllOpenNothing (entity options schema table).value.parts) :
    withoutComments (entity options schema table).value.text.toList =
        (entity bare schema table).value.text.toList ↔
      NotesVanish schema table ∧ AllOpenNothing (entity options schema table).value.parts := by
  rw [text_entity, text_entity_bare hbare options]
  rw [notesVanish_iff hcomments] at heither ⊢
  exact withoutComments_commented_iff (apart_parts fun _ => decorators_ne_nil) heither

theorem notesVanish_of_not_infix
    (h : ∀ column ∈ table.columns, ∀ note ∈ column.note, ¬ "*/".toList <:+: note.toList) :
    NotesVanish schema table :=
  fun column hcolumn _ note hnote =>
    withoutComments_comment_of_not_infix (h column hcolumn note hnote)

theorem allOpenNothing_entity (hbare : bare.comments = false) (options : GeneratorOptions)
    (h : ¬ "/**".toList <:+: (entity bare schema table).value.text.toList) :
    AllOpenNothing (entity options schema table).value.parts := by
  rw [text_entity_bare hbare options] at h
  exact allOpenNothing_of_not_infix h

end Dbml.TypeOrm
