import Mathlib.Data.List.Pairwise
import Dbml.Proofs.Source.Items
import Dbml.Source.Column

/-!
# The order of settings

Settings are read one after the other, and each of them writes one property at most, with a value
that depends on nothing but the setting itself.  So settings that write different properties may
stand in any order, and one that writes none may as well be missing.

* `Writes`: a setting writes a property if there is something of which it changes this property;
* `Assigning`: settings that come to assignments, and `Assigning.foldl_eq`, what follows from it for
  whole lists;
* `Assignment`: what a setting of a column assigns (`assigning_applySetting`), and
  `RelationProperty.assigned?` for a setting of a relation (`assigning_applyRelationSetting`);
* `settings_in_any_order`: lists of settings, from the commas between them to what they make of a
  column or of a relation.
-/

namespace Dbml.Source

/-! ### Settings in general -/

section General

variable {α ι δ : Type} {apply : α → List Token → α} {agree : ι → α → α → Prop}

/-- The setting writes a property: there is something of which it changes this property.  Settings
are applied by `apply`, and two things may `agree` in a property. -/
def Writes (apply : α → List Token → α) (agree : ι → α → α → Prop) (setting : List Token)
    (property : ι) : Prop :=
  ∃ x, ¬ agree property (apply x setting) x

/-- No property is written by both settings. -/
def WriteApart (apply : α → List Token → α) (agree : ι → α → α → Prop)
    (first second : List Token) : Prop :=
  ∀ property, Writes apply agree first property → ¬ Writes apply agree second property

theorem WriteApart.symm {first second : List Token} (h : WriteApart apply agree first second) :
    WriteApart apply agree second first := by
  intro property hsecond hfirst
  exact h property hfirst hsecond

/-- Settings that assign one property at most: what is assigned is read off the setting, and
assignments of different properties do not get in each other's way. -/
structure Assigning (apply : α → List Token → α) (agree : ι → α → α → Prop)
    (assigned? : List Token → Option δ) (property : δ → ι) (assign : α → δ → α) : Prop where
  agree_refl : ∀ written x, agree written x x
  apply_eq : ∀ x setting, apply x setting = (assigned? setting).elim x (assign x)
  assign_comm : ∀ {first second}, property first ≠ property second →
    ∀ x, assign (assign x first) second = assign (assign x second) first
  agree_assign : ∀ {assigned other}, property assigned ≠ other →
    ∀ x, agree other (assign x assigned) x
  exists_not_agree : ∀ assigned, ∃ x, ¬ agree (property assigned) (assign x assigned) x

namespace Assigning

variable {assigned? : List Token → Option δ} {property : δ → ι} {assign : α → δ → α}
  (h : Assigning apply agree assigned? property assign)
  {setting first second : List Token} {settings kept dropped : List (List Token)}

include h

/-- A setting writes the property that it assigns, and no other. -/
theorem writes_iff {written : ι} :
    Writes apply agree setting written ↔ (assigned? setting).map property = some written := by
  cases hassigned : assigned? setting with
  | none =>
      have hsame : ∀ x, agree written (apply x setting) x := by
        intro x
        rw [h.apply_eq, hassigned]
        exact h.agree_refl written x
      simp [Writes, hsame]
  | some assigned =>
      have happly : ∀ x, apply x setting = assign x assigned := by
        intro x
        rw [h.apply_eq, hassigned]
        rfl
      rw [Option.map_some, Option.some.injEq]
      constructor
      · rintro ⟨x, hchanged⟩
        by_contra hother
        rw [happly] at hchanged
        exact hchanged (h.agree_assign hother x)
      · rintro rfl
        obtain ⟨x, hchanged⟩ := h.exists_not_agree assigned
        refine ⟨x, ?_⟩
        rwa [happly]

theorem writeApart_iff :
    WriteApart apply agree first second ↔
      ∀ written ∈ (assigned? first).map property, written ∉ (assigned? second).map property := by
  simp only [WriteApart, h.writes_iff, Option.mem_def]

theorem writes_nothing_iff : (∀ written, ¬ Writes apply agree setting written) ↔
    assigned? setting = none := by
  simp only [h.writes_iff]
  cases assigned? setting <;> simp

/-- Settings that write different properties may be applied in either order. -/
theorem apply_comm (hapart : WriteApart apply agree first second) (x : α) :
    apply (apply x first) second = apply (apply x second) first := by
  rw [h.apply_eq, h.apply_eq x, h.apply_eq, h.apply_eq x]
  cases hfirst : assigned? first with
  | none => rfl
  | some one =>
      cases hsecond : assigned? second with
      | none => rfl
      | some other =>
          have hne : property one ≠ property other := by
            intro hsame
            have hnot := h.writeApart_iff.mp hapart (property one)
            rw [hfirst, hsecond, Option.map_some, Option.map_some, hsame] at hnot
            exact hnot rfl rfl
          exact h.assign_comm hne x

/-- A setting that writes no property changes nothing. -/
theorem apply_idle (hidle : ∀ written, ¬ Writes apply agree setting written) (x : α) :
    apply x setting = x := by
  rw [h.apply_eq, h.writes_nothing_iff.mp hidle]
  rfl

theorem foldl_idle
    (hdropped : ∀ setting ∈ dropped, ∀ written, ¬ Writes apply agree setting written) (x : α) :
    dropped.foldl apply x = x := by
  induction dropped generalizing x with
  | nil => rfl
  | cons setting dropped ih =>
      obtain ⟨hsetting, hothers⟩ := List.forall_mem_cons.mp hdropped
      rw [List.foldl_cons, h.apply_idle hsetting, ih hothers]

theorem foldl_perm (hapart : settings.Pairwise (WriteApart apply agree))
    (hperm : settings.Perm kept) (x : α) :
    settings.foldl apply x = kept.foldl apply x := by
  apply hperm.foldl_eq'
  intro first hfirst second hsecond y
  by_cases heq : first = second
  · rw [heq]
  · have : Std.Symm (WriteApart apply agree) := ⟨fun _ _ hsymm => hsymm.symm⟩
    exact h.apply_comm (hapart.forall hfirst hsecond heq) y

/-- Settings that write different properties come to the same in any order, and without those that
write nothing. -/
theorem foldl_eq (hapart : settings.Pairwise (WriteApart apply agree))
    (hperm : settings.Perm (kept ++ dropped))
    (hdropped : ∀ setting ∈ dropped, ∀ written, ¬ Writes apply agree setting written) (x : α) :
    kept.foldl apply x = settings.foldl apply x := by
  rw [h.foldl_perm hapart hperm, List.foldl_append, h.foldl_idle hdropped]

end Assigning

end General

/-! ### Settings of a column -/

/-- The properties of a column that settings may write. -/
inductive ColumnProperty where
  | primaryKey
  | unique
  | nullable
  | note
  | default
  | increment
  | reference
  deriving DecidableEq

/-- The columns agree in the property. -/
def ColumnProperty.Agree (property : ColumnProperty) (a b : Column) : Prop :=
  match property with
  | .primaryKey => a.primaryKey = b.primaryKey
  | .unique => a.unique = b.unique
  | .nullable => a.nullable = b.nullable
  | .note => a.note = b.note
  | .default => a.default = b.default
  | .increment => a.increment = b.increment
  | .reference => a.reference = b.reference

/-- A property of a column with the value that a setting gives it. -/
inductive Assignment where
  | primaryKey
  | unique
  | nullable (value : Bool)
  | note (value : String)
  | default (value : DefaultValue)
  | increment
  | reference (value : Reference)

namespace Assignment

/-- The property that is assigned. -/
def property : Assignment → ColumnProperty
  | .primaryKey => .primaryKey
  | .unique => .unique
  | .nullable _ => .nullable
  | .note _ => .note
  | .default _ => .default
  | .increment => .increment
  | .reference _ => .reference

/-- The column with the property assigned. -/
def apply (column : Column) : Assignment → Column
  | .primaryKey => { column with primaryKey := true }
  | .unique => { column with unique := true }
  | .nullable value => { column with nullable := some value }
  | .note value => { column with note := some value }
  | .default value => { column with default := some value }
  | .increment => { column with increment := true }
  | .reference value => { column with reference := some value }

/-- What a setting of the form `key: value` assigns. -/
def ofKeyed? (key : String) (value : List Token) : Option Assignment :=
  match Text.lowercaseString key with
  | "ref" =>
    (target? value).map fun (op, target) =>
      .reference ⟨target.table, target.column, some op.cardinality, none, none⟩
  | "default" => (defaultValue? value).map .default
  | "note" =>
    match value with
    | [.str text] => if text.isEmpty then none else some (.note text)
    | _ => none
  | _ => none

/-- What a setting of words assigns. -/
def ofFlag? : String → Option Assignment
  | "pk" | "primary key" => some .primaryKey
  | "unique" => some .unique
  | "not null" | "nn" => some (.nullable false)
  | "null" => some (.nullable true)
  | "increment" | "auto_increment" | "identity" => some .increment
  | _ => none

/-- What a setting assigns, if anything. -/
def ofSetting? : List Token → Option Assignment
  | .ident key :: .colon :: value => ofKeyed? key value
  | setting => (flagName? setting).bind ofFlag?

theorem ofSetting?_of_ne {setting : List Token}
    (h : ∀ key value, setting = .ident key :: .colon :: value → False) :
    ofSetting? setting = (flagName? setting).bind ofFlag? := by
  unfold ofSetting?
  split
  · exact absurd rfl (h _ _)
  · rfl

theorem applyKeyedSetting_eq (column : Column) (key : String) (value : List Token) :
    applyKeyedSetting column key value = (ofKeyed? key value).elim column (apply column) := by
  fun_cases applyKeyedSetting column key value <;> simp_all [ofKeyed?, apply]

theorem applyFlag_eq (column : Column) (name : String) :
    applyFlag column name = (ofFlag? name).elim column (apply column) := by
  fun_cases ofFlag? name <;> simp_all [applyFlag, apply]

theorem applySetting_eq (column : Column) (setting : List Token) :
    applySetting column setting = (ofSetting? setting).elim column (apply column) := by
  fun_cases applySetting column setting with
  | case1 key value => exact applyKeyedSetting_eq column key value
  | case2 setting hkeyed name hname =>
      rw [ofSetting?_of_ne hkeyed, hname]
      exact applyFlag_eq column name
  | case3 setting hkeyed hname =>
      rw [ofSetting?_of_ne hkeyed, hname]
      rfl

end Assignment

/-- A setting of a column assigns one property or does nothing, and what it does depends on no
column. -/
theorem assigning_applySetting :
    Assigning applySetting ColumnProperty.Agree Assignment.ofSetting? Assignment.property
      Assignment.apply where
  agree_refl written _ := by cases written <;> rfl
  apply_eq := Assignment.applySetting_eq
  assign_comm {first second} hne _ := by
    cases first <;> cases second <;> first | rfl | exact absurd rfl hne
  agree_assign {assigned other} hne _ := by
    cases assigned <;> cases other <;> first | rfl | exact absurd rfl hne
  exists_not_agree assigned := by
    -- a column in which nothing is set
    refine ⟨{ name := "", type := "" }, ?_⟩
    cases assigned <;> simp [Assignment.property, Assignment.apply, ColumnProperty.Agree]

/-! ### Settings of a relation -/

/-- The properties of a relation that settings may write. -/
inductive RelationProperty where
  | onDelete
  | onUpdate
  deriving DecidableEq

namespace RelationProperty

/-- The relations agree in the property. -/
def Agree (property : RelationProperty) (a b : Relation) : Prop :=
  match property with
  | .onDelete => a.onDelete = b.onDelete
  | .onUpdate => a.onUpdate = b.onUpdate

/-- The relation with an action for a property, or with none. -/
def assign (relation : Relation) : RelationProperty × Option ReferentialAction → Relation
  | (.onDelete, action) => { relation with onDelete := action }
  | (.onUpdate, action) => { relation with onUpdate := action }

/-- What a setting assigns, if anything: a property and its action, which is missing if it is not
known. -/
def assigned? : List Token → Option (RelationProperty × Option ReferentialAction)
  | .ident key :: .colon :: value =>
    match Text.lowercaseString key with
    | "delete" => some (.onDelete, ReferentialAction.ofText? (Token.render value))
    | "update" => some (.onUpdate, ReferentialAction.ofText? (Token.render value))
    | _ => none
  | _ => none

theorem applyRelationSetting_eq (relation : Relation) (setting : List Token) :
    applyRelationSetting relation setting =
      (assigned? setting).elim relation (assign relation) := by
  fun_cases applyRelationSetting relation setting <;> simp_all [assigned?, assign] <;> rfl

end RelationProperty

/-- A setting of a relation assigns one property or does nothing, and what it does depends on no
relation. -/
theorem assigning_applyRelationSetting :
    Assigning applyRelationSetting RelationProperty.Agree RelationProperty.assigned? Prod.fst
      RelationProperty.assign where
  agree_refl written _ := by cases written <;> rfl
  apply_eq := RelationProperty.applyRelationSetting_eq
  assign_comm := by
    rintro ⟨_ | _, _⟩ ⟨_ | _, _⟩ hne _ <;> first | rfl | exact absurd rfl hne
  agree_assign := by
    rintro ⟨_ | _, _⟩ (_ | _) hne _ <;> first | rfl | exact absurd rfl hne
  exists_not_agree := by
    rintro ⟨property, action⟩
    -- a relation with another action, since one without a known name leaves none behind
    have : Nonempty ReferentialAction := ⟨.cascade⟩
    obtain ⟨other, hother⟩ := exists_ne action
    refine ⟨⟨⟨"", ""⟩, ⟨"", ""⟩, RelationOp.oneToOne.cardinality, other, other⟩, ?_⟩
    cases property <;> exact hother.symm

/-! ### Lists of settings -/

variable {settings kept dropped : List (List Token)}

/-- Settings come to the same in any order, and without those that write nothing, as long as no two
of them write the same property: a list of them, with commas between its items, makes the same of
every column, and of every relation. -/
theorem settings_in_any_order (hitems : ∀ item ∈ settings, IsItem item)
    (hperm : settings.Perm (kept ++ dropped)) :
    (settings.Pairwise (WriteApart applySetting ColumnProperty.Agree) →
      (∀ item ∈ dropped, ∀ property, ¬ Writes applySetting ColumnProperty.Agree item property) →
      ∀ column, (items ([.comma].intercalate kept)).foldl applySetting column =
        (items ([.comma].intercalate settings)).foldl applySetting column) ∧
    (settings.Pairwise (WriteApart applyRelationSetting RelationProperty.Agree) →
      (∀ item ∈ dropped, ∀ property,
        ¬ Writes applyRelationSetting RelationProperty.Agree item property) →
      ∀ relation, (items ([.comma].intercalate kept)).foldl applyRelationSetting relation =
        (items ([.comma].intercalate settings)).foldl applyRelationSetting relation) := by
  have hkept : ∀ item ∈ kept, IsItem item :=
    fun item hitem => hitems item (hperm.mem_iff.mpr (List.mem_append_left dropped hitem))
  rw [items_intercalate hitems, items_intercalate hkept]
  constructor
  · intro hapart hidle column
    exact assigning_applySetting.foldl_eq hapart hperm hidle column
  · intro hapart hidle relation
    exact assigning_applyRelationSetting.foldl_eq hapart hperm hidle relation

/-- A default with a comma in it, a key, an action, and a word that means nothing. -/
def someItems : List (List Token) :=
  [[.ident "default", .colon, .ident "least", .leftParen, .num "1", .comma, .num "2", .rightParen],
    [.ident "primary", .ident "key"],
    [.ident "delete", .colon, .ident "cascade"],
    [.ident "internal"]]

theorem isItem_someItems : ∀ item ∈ someItems, IsItem item := by
  have hdefault : IsItem
      [.ident "default", .colon, .ident "least", .leftParen, .num "1", .comma, .num "2",
        .rightParen] := by
    refine ⟨by decide, ⟨?_, ?_, ?_⟩⟩
    · simp [balanced_cons, balanced_nil]
    · simp [balanced_cons, balanced_nil]
    · intro before after htokens
      -- there is one comma, and a parenthesis is open in front of it
      simp [List.cons_eq_append_iff] at htokens
      rw [htokens.1]
      decide
  intro item hitem
  rw [someItems, List.mem_cons, List.mem_cons, List.mem_cons, List.mem_singleton] at hitem
  rcases hitem with rfl | rfl | rfl | rfl
  · exact hdefault
  · exact isItem_of_plain (by decide) (by decide)
  · exact isItem_of_plain (by decide) (by decide)
  · exact isItem_of_plain (by decide) (by decide)

/-- Back to front and without the word that means nothing, the items make the same of any column and
of any relation. -/
theorem settings_in_any_order_of_someItems :
    (∀ item ∈ someItems, IsItem item) ∧
      someItems.Pairwise (WriteApart applySetting ColumnProperty.Agree) ∧
      someItems.Pairwise (WriteApart applyRelationSetting RelationProperty.Agree) ∧
      (∀ column,
        (items ([.comma].intercalate (someItems.take 3).reverse)).foldl applySetting column =
        (items ([.comma].intercalate someItems)).foldl applySetting column) ∧
      ∀ relation, (items ([.comma].intercalate (someItems.take 3).reverse)).foldl
        applyRelationSetting relation =
        (items ([.comma].intercalate someItems)).foldl applyRelationSetting relation := by
  have hperm : someItems.Perm ((someItems.take 3).reverse ++ [[.ident "internal"]]) := by decide
  have hcolumn : someItems.Pairwise (WriteApart applySetting ColumnProperty.Agree) :=
    List.Pairwise.imp assigning_applySetting.writeApart_iff.mpr (by decide)
  have hrelation : someItems.Pairwise (WriteApart applyRelationSetting RelationProperty.Agree) :=
    List.Pairwise.imp assigning_applyRelationSetting.writeApart_iff.mpr (by decide)
  obtain ⟨hcolumns, hrelations⟩ := settings_in_any_order isItem_someItems hperm
  refine ⟨isItem_someItems, hcolumn, hrelation, hcolumns hcolumn ?_, hrelations hrelation ?_⟩
  · exact List.forall_mem_singleton.mpr (assigning_applySetting.writes_nothing_iff.mpr (by decide))
  · exact List.forall_mem_singleton.mpr
      (assigning_applyRelationSetting.writes_nothing_iff.mpr (by decide))

end Dbml.Source
