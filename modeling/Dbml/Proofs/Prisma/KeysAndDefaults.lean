import Dbml.Proofs.Prisma.RelationFields
import Dbml.Source.Parse

/-!
# Keys and defaults of fields

Every column of the primary key has a field that is marked with `@id`, but for those of a junction,
which has a key of its own.  A field may get a default in three places: as the counter of a key, as
it is stated for its column, and as the time at which a row is made.  A stated default gives way to
both of the others; these two do not see each other.

* `countP_isId_model`: the number of fields that are marked as keys;
* `defaults_scalarField`: the three defaults of a field, in their order;
* `length_defaults_le`: there is at most one unless a column of the primary key counts up and is the
  time at which a row is made.
-/

namespace Dbml.Prisma

/-- The field is marked as the key of its model. -/
def ScalarField.isId (field : ScalarField) : Bool :=
  field.attributes.contains .id

/-- The value of a default attribute. -/
def Attribute.default? : Attribute → Option FieldDefault
  | .default value => some value
  | _ => none

/-- The values of all default attributes of a field. -/
def ScalarField.defaults (field : ScalarField) : List FieldDefault :=
  field.attributes.filterMap Attribute.default?

/-- The field of the column is a key that counts up. -/
def isCounter (column : Column) (junction : Bool) : Bool :=
  column.primaryKey && !junction && column.increment

/-- The default that is stated for a column, where its field has no other. -/
def statedDefault (column : Column) : List FieldDefault :=
  match column.default with
  | some value =>
    if !column.increment && (managedKind? column).isNone then [.literal value.literal] else []
  | none => []

/-- The attributes of a column that the database keeps up to date. -/
def managedAttributes (column : Column) : List Attribute :=
  match managedKind? column with
  | some .created => [.default .now]
  | some .updated => [.updatedAt]
  | _ => []

variable {options : GeneratorOptions} {schema : Schema} {table : Table} {column : Column}
  {junction : Bool}

/-! ### The attributes of a field -/

theorem attributes_eq : attributes column junction =
    (if column.primaryKey && !junction then [.id] else []) ++
      (if isCounter column junction then [.default .autoincrement] else []) ++
      (if column.unique && !column.primaryKey then [.unique] else []) ++
      (statedDefault column).map .default ++ managedAttributes column ++
      (if column.name.toList.contains '_' then [.map column.name] else []) := by
  have hstated : (match column.default with
      | some value =>
        if !column.increment && (managedKind? column).isNone then
          [Attribute.default (.literal value.literal)] else []
      | none => []) = (statedDefault column).map .default := by
    rw [statedDefault]
    cases column.default with
    | none => rfl
    | some value => simp only [apply_ite (List.map Attribute.default), List.map_cons, List.map_nil]
  rw [← hstated]
  rfl

theorem id_not_mem_managedAttributes : Attribute.id ∉ managedAttributes column := by
  unfold managedAttributes
  split <;> simp

theorem attributes_scalarField :
    (scalarField options junction column).attributes = attributes column junction := rfl

theorem isId_scalarField :
    (scalarField options junction column).isId = (column.primaryKey && !junction) := by
  rw [ScalarField.isId, attributes_scalarField, attributes_eq, Bool.eq_iff_iff,
    List.contains_iff_mem]
  simp [id_not_mem_managedAttributes]

theorem defaults_managedAttributes :
    (managedAttributes column).filterMap Attribute.default? =
      if managedKind? column = some .created then [.now] else [] := by
  rw [managedAttributes]
  cases managedKind? column with
  | none => rfl
  | some kind => cases kind <;> rfl

theorem defaults_of_ite {p : Prop} [Decidable p] {a : Attribute} :
    (if p then [a] else []).filterMap Attribute.default? =
      if p then a.default?.toList else [] := by
  split
  · cases a <;> rfl
  · rfl

/-- The defaults of a field: as a counter, as it is stated, and as the time at which a row is
made. -/
theorem defaults_scalarField :
    (scalarField options junction column).defaults =
      (if isCounter column junction then [.autoincrement] else []) ++ statedDefault column ++
        (if managedKind? column = some .created then [.now] else []) := by
  have hstated : ((statedDefault column).map Attribute.default).filterMap Attribute.default? =
      statedDefault column := by
    rw [List.filterMap_map]
    exact List.filterMap_some
  rw [ScalarField.defaults, attributes_scalarField, attributes_eq]
  simp only [List.filterMap_append, defaults_of_ite, defaults_managedAttributes, hstated,
    Attribute.default?, Option.toList_none, Option.toList_some, ite_self, List.nil_append,
    List.append_nil]

theorem statedDefault_of_increment (h : column.increment = true) : statedDefault column = [] := by
  unfold statedDefault
  split
  · simp [h]
  · rfl

/-- A stated default gives way to a value that the database keeps up to date. -/
theorem statedDefault_of_managedKind {kind : TimestampKind} (h : managedKind? column = some kind) :
    statedDefault column = [] := by
  unfold statedDefault
  split
  · simp [h]
  · rfl

theorem length_statedDefault_le : (statedDefault column).length ≤ 1 := by
  unfold statedDefault
  split
  · split
    · exact Nat.le_refl 1
    · exact Nat.zero_le 1
  · exact Nat.zero_le 1

/-- A field has at most one default unless it is a counter as well as the time at which a row is
made. -/
theorem length_defaults_le
    (h : ¬ (isCounter column junction = true ∧ managedKind? column = some .created)) :
    (scalarField options junction column).defaults.length ≤ 1 := by
  rw [defaults_scalarField]
  by_cases hcounter : isCounter column junction = true
  · have hincrement : column.increment = true := (Bool.and_eq_true_iff.mp hcounter).2
    have hcreated : managedKind? column ≠ some .created := by
      intro hkind
      exact h ⟨hcounter, hkind⟩
    rw [statedDefault_of_increment hincrement, if_pos hcounter, if_neg hcreated]
    exact Nat.le_refl 1
  · rw [if_neg hcounter]
    by_cases hcreated : managedKind? column = some .created
    · rw [statedDefault_of_managedKind hcreated, if_pos hcreated]
      exact Nat.le_refl 1
    · rw [if_neg hcreated, List.nil_append, List.append_nil]
      exact length_statedDefault_le

/-! ### The fields of a model -/

/-- A junction has one field that is marked as a key, and any other model has one for each column of
the primary key. -/
theorem countP_isId_model (options : GeneratorOptions) (schema : Schema) (table : Table) :
    (model options schema table).value.scalars.countP (·.isId) =
      if isJunction table then 1 else table.columns.countP (·.primaryKey) := by
  have hcolumns : (·.isId) ∘ scalarField options (isJunction table) =
      fun column => column.primaryKey && !isJunction table :=
    funext fun column => isId_scalarField
  rw [scalars_model, List.countP_append, List.countP_map, hcolumns]
  cases isJunction table with
  | true => simp [junctionKey, ScalarField.isId]
  | false => simp

/-- **Keys and defaults of a model.**  The fields of a model are written with all their attributes.
A junction has exactly one field that is marked with `@id`, and any other model has one for each
column of the primary key; so a model has at most one just if it is a junction or its table has at
most one such column.  No field has two defaults, unless its column is a key that counts up, outside
of junctions, and is the time at which a row is made. -/
theorem keys_and_defaults_of_model (options : GeneratorOptions) (schema : Schema) (table : Table) :
    (model options schema table).value.IsWritten ∧
      ((model options schema table).value.scalars.countP (·.isId) =
        if isJunction table then 1 else table.columns.countP (·.primaryKey)) ∧
      ((model options schema table).value.scalars.countP (·.isId) ≤ 1 ↔
        isJunction table = true ∨ table.columns.countP (·.primaryKey) ≤ 1) ∧
      ∀ field ∈ (model options schema table).value.scalars, field.defaults.length ≤ 1 ∨
        ∃ column ∈ table.columns, field = scalarField options (isJunction table) column ∧
          isCounter column (isJunction table) = true ∧ managedKind? column = some .created := by
  refine ⟨isWritten _, countP_isId_model options schema table, ?_, ?_⟩
  · rw [countP_isId_model]
    cases isJunction table <;> simp
  · intro field hfield
    rw [scalars_model] at hfield
    rcases List.mem_append.mp hfield with hkey | hcolumn
    · have hjunction : field = junctionKey := by
        split at hkey
        · exact List.mem_singleton.mp hkey
        · contradiction
      left
      rw [hjunction]
      exact Nat.le_refl 1
    · obtain ⟨column, hmem, rfl⟩ := List.mem_map.mp hcolumn
      by_cases hboth : isCounter column (isJunction table) = true ∧
        managedKind? column = some .created
      · exact .inr ⟨column, hmem, rfl, hboth⟩
      · exact .inl (length_defaults_le hboth)

/-- A table whose key has two columns, one of which counts up and is named for the time at which a
row is made. -/
def twoKeysSource : String :=
  "Table t \x7b\na int [pk]\ncreated_at time [pk, increment]\n\x7d"

/-- **A model may have two keys, and a field two defaults.** -/
theorem two_keys_and_two_defaults :
    ∃ parsed, (parse .strict twoKeysSource.toList).outcome = .ok parsed ∧
      ∃ table ∈ parsed.tables, (model {} parsed table).value.scalars.countP (·.isId) = 2 ∧
        ∃ field ∈ (model {} parsed table).value.scalars,
          field.defaults = [.autoincrement, .now] := by
  have hparse : (parse .strict twoKeysSource.toList).outcome =
      .ok
        { tables :=
            [{ name := "t"
               columns :=
                [{ name := "a", type := "int", primaryKey := true },
                 { name := "created_at", type := "time", primaryKey := true, increment := true }] }]
          relations := [] } := by
    with_unfolding_all rfl
  refine ⟨_, hparse, _, List.mem_singleton_self _, ?_, ?_⟩
  · decide
  · decide

end Dbml.Prisma
