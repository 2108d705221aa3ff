import Dbml.Proofs.Linking.Lookup

/-!
# The passes of linking

`link` goes over a scanned schema four times.  This file names what each pass starts from and puts
`link` together from them (`link_value`), so that later files speak of one pass at a time:

* `resolvedRelations`, `resolvedSchema`: every alias replaced by the name that it stands for;
* `joinedSchema`: every many-to-many relation has its junction table;
* `keyedSchema`: every other relation has its foreign key;
* `keptRelations`: the first relation between each two columns.
-/

namespace Dbml.Linking

/-- The relations that a source states, with the names of their tables resolved. -/
def resolvedRelations (schema : Schema) (stated : List NamedRelation) : List NamedRelation :=
  stated.map (resolveRelation schema.tables)

/-- The schema with the names in all references resolved. -/
def resolvedSchema (schema : Schema) : Schema :=
  { schema with tables := resolveTables schema.tables }

/-- The relations that get a junction table. -/
def junctionRelations (schema : Schema) (stated : List NamedRelation) : List NamedRelation :=
  (resolvedRelations schema stated).filter (·.relation.isManyToMany)

/-- The relations that get a foreign key at their source. -/
def keyRelations (schema : Schema) (stated : List NamedRelation) : List Relation :=
  ((resolvedRelations schema stated).filter (!·.relation.isManyToMany)).map (·.relation)

/-- The schema with all junction tables, to which the foreign keys are added. -/
def joinedSchema (schema : Schema) (stated : List NamedRelation) : Schema :=
  (linkEach linkJunction (resolvedSchema schema) (junctionRelations schema stated)).value

/-- The schema with all foreign keys. -/
def keyedSchema (schema : Schema) (stated : List NamedRelation) : Schema :=
  (linkEach linkForeignKey (joinedSchema schema stated) (keyRelations schema stated)).value

/-- The relations of a list without those between the same columns as an earlier one. -/
def keptRelations (relations : List Relation) : List Relation :=
  (dropDuplicates [] relations).value

theorem link_value (schema : Schema) (stated : List NamedRelation) :
    (link schema stated).value =
      { keyedSchema schema stated with
        relations := keptRelations ((resolvedRelations schema stated).map (·.relation)) } := rfl

/-! ### Steps over a list -/

section LinkEach

variable {α : Type} {step : Schema → α → Traced Schema}

@[simp] theorem linkEach_nil (schema : Schema) : (linkEach step schema []).value = schema := rfl

@[simp] theorem linkEach_cons (schema : Schema) (x : α) (rest : List α) :
    (linkEach step schema (x :: rest)).value = (linkEach step (step schema x).value rest).value :=
  rfl

theorem linkEach_append (schema : Schema) (xs ys : List α) :
    (linkEach step schema (xs ++ ys)).value =
      (linkEach step (linkEach step schema xs).value ys).value := by
  induction xs generalizing schema with
  | nil => rfl
  | cons x rest ih => exact ih (step schema x).value

/-- What every step preserves, all of them preserve. -/
theorem linkEach_preserves {P : Schema → Prop} {schema : Schema} {xs : List α} (hstart : P schema)
    (hstep : ∀ schema, ∀ x ∈ xs, P schema → P (step schema x).value) :
    P (linkEach step schema xs).value := by
  induction xs generalizing schema with
  | nil => exact hstart
  | cons x rest ih =>
      exact ih (hstep schema x List.mem_cons_self hstart) fun schema y hy =>
        hstep schema y (List.mem_cons_of_mem _ hy)

/-- What a step establishes for its own element and every other step preserves, holds for all
elements in the end. -/
theorem linkEach_establishes {P : α → Schema → Prop} {schema : Schema} {xs : List α}
    (hown : ∀ schema, ∀ x ∈ xs, P x (step schema x).value)
    (hother : ∀ schema, ∀ x ∈ xs, ∀ y ∈ xs, P x schema → P x (step schema y).value) :
    ∀ x ∈ xs, P x (linkEach step schema xs).value := by
  induction xs generalizing schema with
  | nil => exact List.forall_mem_nil _
  | cons first rest ih =>
      intro x hx
      rcases List.mem_cons.mp hx with rfl | hrest
      · have hkept : P x (linkEach step (step schema x).value rest).value :=
          linkEach_preserves (hown schema x hx) fun schema y hy =>
            hother schema x hx y (List.mem_cons_of_mem _ hy)
        exact hkept
      · refine ih (fun schema y hy => hown schema y (List.mem_cons_of_mem _ hy)) ?_ x hrest
        intro schema y hy z hz
        exact hother schema y (List.mem_cons_of_mem _ hy) z (List.mem_cons_of_mem _ hz)

end LinkEach

/-! ### Relations that are kept -/

theorem mem_of_mem_dropDuplicates {kept relations : List Relation} {relation : Relation}
    (h : relation ∈ (dropDuplicates kept relations).value) :
    relation ∈ kept ∨ relation ∈ relations := by
  induction relations generalizing kept with
  | nil => exact .inl h
  | cons first rest ih =>
      unfold dropDuplicates at h
      split at h
      · exact (ih h).imp_right (List.mem_cons_of_mem _)
      · rcases ih h with hkept | hrest
        · rcases List.mem_append.mp hkept with hkept | hfirst
          · exact .inl hkept
          · exact .inr (List.mem_singleton.mp hfirst ▸ List.mem_cons_self)
        · exact .inr (List.mem_cons_of_mem _ hrest)

/-- A relation that is kept is one of the list. -/
theorem mem_of_mem_keptRelations {relations : List Relation} {relation : Relation}
    (h : relation ∈ keptRelations relations) : relation ∈ relations := by
  rcases mem_of_mem_dropDuplicates h with hnone | hmem
  · contradiction
  · exact hmem

/-- A relation of the linked schema that is not many-to-many gets a foreign key. -/
theorem mem_keyRelations {schema : Schema} {stated : List NamedRelation} {relation : Relation}
    (h : relation ∈ (link schema stated).value.relations) (hmany : relation.isManyToMany = false) :
    relation ∈ keyRelations schema stated := by
  obtain ⟨named, hnamed, rfl⟩ := List.mem_map.mp (mem_of_mem_keptRelations h)
  exact List.mem_map.mpr ⟨named, List.mem_filter.mpr ⟨hnamed, by simp [hmany]⟩, rfl⟩

end Dbml.Linking
