import Dbml.Proofs.Linking.KeySides
import Dbml.Proofs.Prisma.RelationFields
import Dbml.Proofs.TypeOrm.Files
import Dbml.Proofs.TypeOrm.Sides

/-!
# What generators read of a foreign key

Entities and models depend on a foreign key through its two columns, what is done on changes, and
whether it is one-to-one or many-to-many.  So one-to-many and many-to-one are the same to them, and
relations are nothing to them.

* `entity_asKeys`: the entity of a table;
* `model_asKeys`: the model of a table, but for the references in it, of which no more is written;
* `render_asKeys`: so both formats are the same for a schema as for its reading (`Schema.asKeys`).
-/

namespace Dbml

variable {options : GeneratorOptions} {schema : Schema} {table : Table} {column : Column}

/-! ### Columns -/

theorem Reference.isOneToOne_asKey (r : Reference) :
    (r.asKey.cardinality == some .oneToOne) = (r.cardinality == some .oneToOne) := by
  obtain ⟨_, _, _ | ⟨source, target⟩, _, _⟩ := r
  · rfl
  · cases source <;> cases target <;> rfl

theorem Reference.isManyToMany_asKey (r : Reference) :
    r.asKey.cardinality.any Cardinality.isManyToMany =
      r.cardinality.any Cardinality.isManyToMany := by
  obtain ⟨_, _, _ | ⟨source, target⟩, _, _⟩ := r
  · rfl
  · cases source <;> cases target <;> rfl

theorem Column.isOneToOneKey_asKey (column : Column) :
    column.asKey.isOneToOneKey = column.isOneToOneKey := by
  rw [isOneToOneKey, isOneToOneKey, asKey, Option.any_map]
  exact congrArg column.reference.any (funext fun r =>
    congrArg (column.unique || ·) r.isOneToOne_asKey)

theorem Column.isManyToManyKey_asKey (column : Column) :
    column.asKey.isManyToManyKey = column.isManyToManyKey := by
  rw [isManyToManyKey, isManyToManyKey, asKey, Option.any_map]
  exact congrArg column.reference.any (funext Reference.isManyToMany_asKey)

/-- A foreign key as it is read, with its column. -/
def keyAsKey : Column × Reference → Column × Reference
  | (column, reference) => (column.asKey, reference.asKey)

theorem Table.foreignKeys_asKeys (table : Table) :
    table.asKeys.foreignKeys = table.foreignKeys.map keyAsKey := by
  rw [foreignKeys, foreignKeys, asKeys, List.filterMap_map, List.map_filterMap]
  refine List.filterMap_congr fun column _ => ?_
  simp only [Function.comp_apply, Column.asKey, Option.map_map]
  rfl

/-! ### Entities -/

namespace TypeOrm

theorem holdsValue_asKey (column : Column) : holdsValue column.asKey = holdsValue column := by
  rw [holdsValue, holdsValue, column.isManyToManyKey_asKey, Column.asKey, Option.isNone_map]

theorem relationProperty_asKey (options : GeneratorOptions) (table : Table) (column : Column)
    (reference : Reference) (related : Table) :
    relationProperty options table.asKeys column.asKey reference.asKey related.asKeys =
      relationProperty options table column reference related := by
  simp only [relationProperty, column.isOneToOneKey_asKey]
  rfl

theorem columnProperty?_asKey (options : GeneratorOptions) (schema : Schema) (table : Table)
    (column : Column) :
    columnProperty? options schema.asKeys table.asKeys column.asKey =
      columnProperty? options schema table column := by
  cases hvalue : holdsValue column with
  | true =>
      rw [columnProperty?_of_holdsValue hvalue,
        columnProperty?_of_holdsValue ((holdsValue_asKey column).trans hvalue)]
      rfl
  | false =>
      rw [columnProperty?_of_not_holdsValue hvalue,
        columnProperty?_of_not_holdsValue ((holdsValue_asKey column).trans hvalue), Column.asKey,
          Option.bind_map]
      refine congrArg column.reference.bind (funext fun reference => ?_)
      have htable : reference.asKey.table = reference.table := rfl
      rw [Function.comp_apply, htable, Schema.table?_asKeys, Option.map_map]
      exact congrArg (Option.map · _)
        (funext (relationProperty_asKey options table column reference))

theorem relatedTable?_asKey (schema : Schema) (column : Column) :
    relatedTable? schema.asKeys column.asKey = (relatedTable? schema column).map Table.asKeys := by
  rw [relatedTable?, relatedTable?, holdsValue_asKey]
  split
  · rfl
  · rw [Column.asKey, Option.bind_map, Option.map_bind]
    exact congrArg column.reference.bind (funext fun reference =>
      Schema.table?_asKeys schema reference.table)

theorem reverseProperty_asKey (table other : Table) (column : Column) :
    reverseProperty table.asKeys other.asKeys column.asKey =
      reverseProperty table other column := by
  simp only [reverseProperty, column.isOneToOneKey_asKey]
  rfl

theorem relationKeys_asKeys (table target : Table) :
    relationKeys table.asKeys target.asKeys = (relationKeys table target).map keyAsKey := by
  rw [relationKeys, relationKeys, table.foreignKeys_asKeys, List.filter_map]
  refine congrArg (List.map keyAsKey) (List.filter_congr fun key _ => ?_)
  simp only [Function.comp_apply, keyAsKey, isRelationKey, Column.isManyToManyKey_asKey]
  rfl

theorem reversePropertiesFrom_asKeys (table other : Table) :
    reversePropertiesFrom table.asKeys other.asKeys = reversePropertiesFrom table other := by
  rw [reversePropertiesFrom, reversePropertiesFrom, relationKeys_asKeys, List.map_map]
  exact congrArg (List.map · _) (funext fun key => reverseProperty_asKey table other key.1)

theorem reverseProperties_asKeys (schema : Schema) (table : Table) :
    reverseProperties schema.asKeys table.asKeys = reverseProperties schema table := by
  rw [reverseProperties, reverseProperties, Schema.asKeys, List.filter_map, List.flatMap_map]
  exact List.flatMap_congr fun other _ => reversePropertiesFrom_asKeys table other

/-- The relations of a table are to tables of the same names. -/
theorem relationTables_asKeys (schema : Schema) (table : Table) :
    (relationTables schema.asKeys table.asKeys).map (·.name) =
      (relationTables schema table).map (·.name) := by
  have hown : (relatedTables schema.asKeys table.asKeys).map (·.name) =
      (relatedTables schema table).map (·.name) := by
    rw [relatedTables, relatedTables, Table.asKeys, List.filterMap_map, List.map_filterMap,
      List.map_filterMap]
    refine List.filterMap_congr fun column _ => ?_
    rw [Function.comp_apply, relatedTable?_asKey, Option.map_map]
    rfl
  have hothers : ((reverseKeys schema.asKeys table.asKeys).map (·.1)).map (·.name) =
      ((reverseKeys schema table).map (·.1)).map (·.name) := by
    rw [reverseKeys, reverseKeys, Schema.asKeys, List.filter_map, List.flatMap_map,
      List.map_flatMap, List.map_flatMap, List.map_flatMap, List.map_flatMap]
    refine List.flatMap_congr fun other _ => ?_
    rw [relationKeys_asKeys]
    simp only [List.map_map]
    rfl
  rw [relationTables, relationTables, List.map_append, List.map_append, hown, hothers]

theorem entity_asKeys (options : GeneratorOptions) (schema : Schema) (table : Table) :
    (entity options schema.asKeys table.asKeys).value = (entity options schema table).value := by
  have hproperties : (entity options schema.asKeys table.asKeys).value.properties =
      (entity options schema table).value.properties := by
    rw [entity_properties, entity_properties, reverseProperties_asKeys, Table.asKeys,
      List.filterMap_map]
    refine congrArg (· ++ reverseProperties schema table) ?_
    exact List.filterMap_congr fun column _ => columnProperty?_asKey options schema table column
  refine Entity.eq_of_mem_iff ?_ (fun kind => ?_) ?_ hproperties
  · rw [entity_table, entity_table]
    rfl
  · rw [mem_decorators_entity, mem_decorators_entity, hproperties]
  · rw [related_entity, related_entity, relationTables_asKeys]
    rfl

theorem entities_asKeys (options : GeneratorOptions) (schema : Schema) :
    (entities options schema.asKeys schema.asKeys.tables).value =
      (entities options schema schema.tables).value := by
  rw [entities_value, entities_value, Schema.asKeys, List.map_map]
  exact List.map_congr_left fun table _ => entity_asKeys options schema table

theorem moduleText_asKeys (tables : List Table) :
    moduleText (tables.map Table.asKeys) = moduleText tables := by
  simp only [moduleText, List.isEmpty_map, List.map_map]
  rfl

end TypeOrm

/-! ### Models -/

namespace Prisma

theorem isJunction_asKeys (table : Table) : isJunction table.asKeys = isJunction table := by
  rw [isJunction, isJunction, table.foreignKeys_asKeys, List.map_map]
  rfl

/-- A relation field with its reference as it is read. -/
def RelationField.asKey (field : RelationField) : RelationField :=
  { field with reference := field.reference.asKey }

/-- A model with the references in it as they are read. -/
def Model.asKeys (model : Model) : Model :=
  { model with relations := model.relations.map RelationField.asKey }

/-- Of a reference no more is written than its column and what is done on changes. -/
theorem Model.text_asKeys (model : Model) : model.asKeys.text = model.text := by
  have hfields : (model.relations.map RelationField.asKey).map RelationField.text =
      model.relations.map RelationField.text := by
    rw [List.map_map]
    rfl
  rw [text, text, sections, sections, asKeys, hfields]

theorem relationField?_asKey (schema : Schema) (key : Column × Reference) :
    relationField? schema.asKeys (keyAsKey key) =
      (relationField? schema key).map RelationField.asKey := by
  obtain ⟨column, reference⟩ := key
  have htable : reference.asKey.table = reference.table := rfl
  rw [keyAsKey, relationField?, relationField?, column.isManyToManyKey_asKey, Schema.table?_asKeys,
    htable]
  split
  · rfl
  · cases schema.table? reference.table <;> rfl

theorem inverseFieldsFrom_asKeys (table other : Table) :
    inverseFieldsFrom table.asKeys other.asKeys = inverseFieldsFrom table other := by
  have hfield : ∀ key : Column × Reference,
      ({ name := Naming.fieldName other.asKeys.name
         model := Naming.className other.asKeys.name
         single := (keyAsKey key).1.isOneToOneKey } : InverseField) =
        { name := Naming.fieldName other.name
          model := Naming.className other.name
          single := key.1.isOneToOneKey } := fun key =>
    congrArg (InverseField.mk _ _) key.1.isOneToOneKey_asKey
  rw [inverseFieldsFrom, inverseFieldsFrom, other.foreignKeys_asKeys, List.filter_map, List.map_map]
  refine congrArg₂ List.map (funext hfield) ?_
  refine List.filter_congr fun key _ => ?_
  simp only [Function.comp_apply, keyAsKey, Column.isManyToManyKey_asKey]
  rfl

theorem inverseFields_asKeys (schema : Schema) (table : Table) :
    inverseFields schema.asKeys table.asKeys = inverseFields schema table := by
  rw [inverseFields, inverseFields, Schema.asKeys, List.filter_map, List.flatMap_map]
  exact List.flatMap_congr fun other _ => inverseFieldsFrom_asKeys table other

theorem model_asKeys (options : GeneratorOptions) (schema : Schema) (table : Table) :
    (model options schema.asKeys table.asKeys).value =
      (model options schema table).value.asKeys := by
  have hscalars : (model options schema.asKeys table.asKeys).value.scalars =
      (model options schema table).value.scalars := by
    rw [scalars_model, scalars_model, isJunction_asKeys, Table.asKeys, List.map_map]
    rfl
  have hrelations : (model options schema.asKeys table.asKeys).value.relations =
      (model options schema table).value.relations.map RelationField.asKey := by
    rw [relations_model, relations_model, table.foreignKeys_asKeys, List.filterMap_map,
      List.map_filterMap]
    exact List.filterMap_congr fun key _ => relationField?_asKey schema key
  have hinverses : (model options schema.asKeys table.asKeys).value.inverses =
      (model options schema table).value.inverses := inverseFields_asKeys schema table
  have hmodel : (model options schema.asKeys table.asKeys).value =
      ⟨Naming.className table.name, (model options schema.asKeys table.asKeys).value.scalars,
        (model options schema.asKeys table.asKeys).value.relations,
        (model options schema.asKeys table.asKeys).value.inverses⟩ := rfl
  rw [hmodel, hscalars, hrelations, hinverses]
  rfl

theorem models_value (options : GeneratorOptions) (schema : Schema) (tables : List Table) :
    (models options schema tables).value = tables.map fun table =>
      (model options schema table).value := by
  induction tables with
  | nil => rfl
  | cons table rest ih => exact congrArg ((model options schema table).value :: ·) ih

theorem provider_asKeys (options : GeneratorOptions) (schema : Schema) :
    provider options schema.asKeys = provider options schema := by
  have hdatabase : schema.asKeys.metadataText? "database_type" =
      schema.metadataText? "database_type" := rfl
  rw [provider, provider, hdatabase]

theorem file_value (options : GeneratorOptions) (schema : Schema) :
    (file options schema).value =
      fileText (provider options schema).value (models options schema schema.tables).value := by
  simp only [file, Traced.value_bind, Traced.value_pure]

/-- Of the models a file has their texts. -/
theorem fileText_congr {first second : List Model}
    (h : first.map Model.text = second.map Model.text)
    (provider : String) : fileText provider first = fileText provider second := by
  unfold fileText
  rw [h]

theorem file_asKeys (options : GeneratorOptions) (schema : Schema) :
    (file options schema.asKeys).value = (file options schema).value := by
  have hmodels : ((models options schema.asKeys schema.asKeys.tables).value).map Model.text =
      ((models options schema schema.tables).value).map Model.text := by
    have htables : schema.asKeys.tables = schema.tables.map Table.asKeys := rfl
    rw [models_value, models_value, htables, List.map_map, List.map_map, List.map_map]
    refine List.map_congr_left fun table _ => ?_
    simp only [Function.comp_apply]
    rw [model_asKeys, Model.text_asKeys]
  rw [file_value, file_value, provider_asKeys]
  exact fileText_congr hmodels _

end Prisma

/-! ### Both formats -/

/-- What is read of a schema is all that entities and models are made of. -/
theorem render_asKeys (options : GeneratorOptions) {format : OutputFormat} (h : format ≠ .json)
    (schema : Schema) :
    (render options format schema.asKeys).value = (render options format schema).value := by
  cases format with
  | json => contradiction
  | typeOrm =>
      have hrender : ∀ schema : Schema, (render options .typeOrm schema).value =
          (TypeOrm.entityFiles (TypeOrm.entities options schema schema.tables).value).map
              (fun file => Artifact.mk file.1 file.2) ++
            [⟨"database.module.ts", TypeOrm.moduleText schema.tables⟩] := by
        intro schema
        rw [render, Traced.value_bind, Traced.value_pure]
      rw [hrender, hrender, TypeOrm.entities_asKeys, Schema.asKeys, TypeOrm.moduleText_asKeys]
  | prisma =>
      exact congrArg (fun text => [Artifact.mk "schema.prisma" text])
        (Prisma.file_asKeys options schema)

end Dbml
