import Mathlib.Tactic.ByContra
import Dbml.Linking
import Dbml.Schema.Edit

/-!
# Looking up what an update left

A name stands for the first table or column that bears it, and an update changes exactly that one.
So a lookup behind an update that keeps names finds

* the changed element, if it asks for the name that was updated (`find?_updateFirst_self`);
* what it found before, if it asks for another name (`find?_updateFirst_of_disjoint`).

`Schema.reference?` is the view of a schema that the later files speak about: the reference of the
first column of a name in the first table of a name.
-/

namespace Dbml

/-! ### The first element with a property -/

section UpdateFirst

variable {α : Type} {p q : α → Bool} {f : α → α} {l : List α}

theorem find?_updateFirst_self (hf : ∀ x, p x → p (f x)) :
    (updateFirst p f l).find? p = (l.find? p).map f := by
  induction l with
  | nil => rfl
  | cons x rest ih =>
      by_cases hx : p x
      · simp [updateFirst, hx, hf x hx]
      · simp [updateFirst, hx, ih]

theorem find?_updateFirst_of_disjoint (hx : ∀ x, p x → q x = false)
    (hf : ∀ x, p x → q (f x) = false) :
    (updateFirst p f l).find? q = l.find? q := by
  induction l with
  | nil => rfl
  | cons x rest ih =>
      by_cases hp : p x
      · simp [updateFirst, hp, hx x hp, hf x hp]
      · simp [updateFirst, hp, List.find?_cons, ih]

theorem updateFirst_eq_self (h : l.find? p = none) : updateFirst p f l = l := by
  induction l with
  | nil => rfl
  | cons x rest ih =>
      by_cases hx : p x
      · simp [hx] at h
      · simp_all [updateFirst]

theorem updateFirst_append_of_none {more : List α} (h : l.find? p = none) :
    updateFirst p f (l ++ more) = l ++ updateFirst p f more := by
  induction l with
  | nil => rfl
  | cons x rest ih =>
      by_cases hx : p x
      · simp [hx] at h
      · simp_all [updateFirst]

theorem mem_updateFirst_of_fixed {x : α} (hx : x ∈ l) (hf : f x = x) : x ∈ updateFirst p f l := by
  induction l with
  | nil => contradiction
  | cons y rest ih =>
      unfold updateFirst
      rcases List.mem_cons.mp hx with rfl | hrest
      · split
        · rw [hf]
          exact List.mem_cons_self
        · exact List.mem_cons_self
      · split
        · exact List.mem_cons_of_mem _ hrest
        · exact List.mem_cons_of_mem _ (ih hrest)

theorem forall_mem_updateFirst {P : α → Prop} (h : ∀ x ∈ l, P x)
    (hf : ∀ x, p x = true → P x → P (f x)) : ∀ x ∈ updateFirst p f l, P x := by
  induction l with
  | nil => exact h
  | cons x rest ih =>
      obtain ⟨hx, hrest⟩ := List.forall_mem_cons.mp h
      unfold updateFirst
      split
      · rename_i hp
        exact List.forall_mem_cons.mpr ⟨hf x hp hx, hrest⟩
      · exact List.forall_mem_cons.mpr ⟨hx, ih hrest⟩

theorem map_updateFirst {β : Type} {g : α → β} (h : ∀ x, g (f x) = g x) :
    (updateFirst p f l).map g = l.map g := by
  induction l with
  | nil => rfl
  | cons x rest ih =>
      unfold updateFirst
      split
      · rw [List.map_cons, List.map_cons, h]
      · rw [List.map_cons, List.map_cons, ih]

/-- An update depends on what it does to the element that it finds. -/
theorem updateFirst_congr {g : α → α} (h : ∀ x, l.find? p = some x → f x = g x) :
    updateFirst p f l = updateFirst p g l := by
  induction l with
  | nil => rfl
  | cons x rest ih =>
      by_cases hx : p x
      · simp [updateFirst, hx, h x (by simp [hx])]
      · have hrest : ∀ y, rest.find? p = some y → f y = g y := by
          intro y hy
          exact h y (by simpa [hx] using hy)
        simp [updateFirst, hx, ih hrest]

@[simp] theorem length_updateFirst : (updateFirst p f l).length = l.length := by
  induction l with
  | nil => rfl
  | cons x rest ih =>
      unfold updateFirst
      split
      · rfl
      · rw [List.length_cons, List.length_cons, ih]

theorem getElem?_updateFirst_of_fixed {i : Nat} {x : α} (hx : l[i]? = some x) (hf : f x = x) :
    (updateFirst p f l)[i]? = some x := by
  induction l generalizing i with
  | nil => contradiction
  | cons y rest ih =>
      unfold updateFirst
      cases i with
      | zero =>
          cases hx
          split
          · rw [List.getElem?_cons_zero, hf]
          · rfl
      | succ i =>
          split
          · exact hx
          · exact ih hx

theorem updateFirst_append_of_some {more : List α} {x : α} (h : l.find? p = some x) :
    updateFirst p f (l ++ more) = updateFirst p f l ++ more := by
  induction l with
  | nil => contradiction
  | cons y rest ih =>
      by_cases hy : p y
      · simp [updateFirst, hy]
      · rw [List.find?_cons_of_neg hy] at h
        simp [updateFirst, hy, ih h]

/-- What is asked of some element is asked of the changed one or of any that was there, if the one
that is changed did not satisfy it. -/
theorem any_updateFirst {x : α} (h : l.find? p = some x) (hx : q x = false) :
    (updateFirst p f l).any q = (q (f x) || l.any q) := by
  induction l with
  | nil => contradiction
  | cons y rest ih =>
      by_cases hy : p y
      · rw [List.find?_cons_of_pos hy] at h
        cases h
        simp [updateFirst, hy, hx]
      · rw [List.find?_cons_of_neg hy] at h
        rw [updateFirst, if_neg hy, List.any_cons, List.any_cons, ih h, Bool.or_left_comm]

theorem map_updateFirst_comm {β : Type} {p' : β → Bool} {f' : β → β} {g : α → β}
    (hp : ∀ x, p' (g x) = p x) (hf : ∀ x, l.find? p = some x → g (f x) = f' (g x)) :
    (updateFirst p f l).map g = updateFirst p' f' (l.map g) := by
  induction l with
  | nil => rfl
  | cons x rest ih =>
      by_cases hx : p x
      · simp [updateFirst, hp, hx, hf x (by simp [hx])]
      · have hrest : ∀ y, rest.find? p = some y → g (f y) = f' (g y) := by
          intro y hy
          exact hf y (by simpa [hx] using hy)
        simp [updateFirst, hp, hx, ih hrest]

/-- Two updates of the same element are one. -/
theorem updateFirst_updateFirst {g : α → α} (hf : ∀ x, p x → p (f x)) :
    updateFirst p g (updateFirst p f l) = updateFirst p (g ∘ f) l := by
  induction l with
  | nil => rfl
  | cons x rest ih =>
      by_cases hx : p x
      · simp [updateFirst, hx, hf x hx]
      · simp [updateFirst, hx, ih]

/-- Updates of different elements commute. -/
theorem updateFirst_comm {g : α → α} (hpq : ∀ x, p x → q x = false) (hf : ∀ x, q (f x) = q x)
    (hg : ∀ x, p (g x) = p x) :
    updateFirst p f (updateFirst q g l) = updateFirst q g (updateFirst p f l) := by
  induction l with
  | nil => rfl
  | cons x rest ih =>
      by_cases hx : p x
      · simp [updateFirst, hx, hpq x hx, hf]
      · by_cases hq : q x
        · simp [updateFirst, hx, hq, hg]
        · simp [updateFirst, hx, hq, ih]

/-- Where names are distinct, an element is the first of its name. -/
theorem find?_eq_some_of_nodup {key : α → String} (h : (l.map key).Nodup) {x : α} (hx : x ∈ l) :
    l.find? (fun y => key y = key x) = some x := by
  induction l with
  | nil => contradiction
  | cons y rest ih =>
      rw [List.map_cons, List.nodup_cons] at h
      rcases List.mem_cons.mp hx with rfl | hrest
      · simp
      · have hne : key y ≠ key x := by
          intro heq
          exact h.1 (heq ▸ List.mem_map_of_mem hrest)
        rw [List.find?_cons_of_neg (by simpa using hne), ih h.2 hrest]

/-- Where names are distinct, an update by name changes the one element that bears it. -/
theorem getElem?_updateFirst_of_nodup {key : α → String} (h : (l.map key).Nodup) {i : Nat} {x : α}
    (hx : l[i]? = some x) (name : String) :
    (updateFirst (key · = name) f l)[i]? = some (if key x = name then f x else x) := by
  induction l generalizing i with
  | nil => contradiction
  | cons y rest ih =>
      rw [List.map_cons, List.nodup_cons] at h
      by_cases hy : key y = name
      · rw [updateFirst, if_pos (decide_eq_true hy)]
        cases i with
        | zero =>
            cases hx
            rw [List.getElem?_cons_zero, if_pos hy]
        | succ i =>
            have hmem : key x ∈ rest.map key := List.mem_map_of_mem (List.mem_of_getElem? hx)
            have hne : key x ≠ name := by
              rintro rfl
              exact h.1 (hy ▸ hmem)
            rw [List.getElem?_cons_succ, if_neg hne]
            exact hx
      · rw [updateFirst, if_neg (by simpa using hy)]
        cases i with
        | zero =>
            cases hx
            rw [List.getElem?_cons_zero, if_neg hy]
        | succ i => exact ih h.2 hx

end UpdateFirst

/-! ### Tables -/

namespace Schema

variable {schema : Schema} {name other : String} {f : Table → Table} {endpoint : Endpoint}

theorem hasTable_eq_isSome (schema : Schema) (name : String) :
    schema.hasTable name = (schema.table? name).isSome := by
  simp only [hasTable, table?, List.isSome_find?]

theorem hasTable_iff_mem : schema.hasTable name = true ↔ name ∈ schema.tables.map (·.name) := by
  rw [hasTable, List.any_eq_true, List.mem_map]
  exact exists_congr fun table => and_congr_right fun _ => decide_eq_true_iff

theorem hasTable_eq_false_iff :
    schema.hasTable name = false ↔ name ∉ schema.tables.map (·.name) := by
  rw [← Bool.not_eq_true, hasTable_iff_mem]

theorem table?_updateTable_self (hf : ∀ table, (f table).name = table.name) :
    (schema.updateTable name f).table? name = (schema.table? name).map f :=
  find?_updateFirst_self fun table h => by simpa [hf] using h

theorem table?_updateTable_of_ne (hf : ∀ table, (f table).name = table.name) (hne : other ≠ name) :
    (schema.updateTable name f).table? other = schema.table? other := by
  refine find?_updateFirst_of_disjoint ?_ ?_
  · intro table h
    simp_all [Ne.symm hne]
  · intro table h
    simp_all [Ne.symm hne]

theorem updateTable_eq_self (h : schema.table? name = none) :
    schema.updateTable name f = schema := by
  rw [updateTable, updateFirst_eq_self h]

theorem updateTable_congr {g : Table → Table}
    (h : ∀ table, schema.table? name = some table → f table = g table) :
    schema.updateTable name f = schema.updateTable name g := by
  rw [updateTable, updateTable, updateFirst_congr h]

/-- An update that keeps names keeps the tables that exist. -/
theorem hasTable_updateTable (hf : ∀ table, (f table).name = table.name) :
    (schema.updateTable name f).hasTable other = schema.hasTable other := by
  rw [hasTable_eq_isSome, hasTable_eq_isSome]
  by_cases h : other = name
  · rw [h, table?_updateTable_self hf, Option.isSome_map]
  · rw [table?_updateTable_of_ne hf h]

end Schema

/-! ### Columns -/

namespace Table

variable {table : Table} {name other : String} {f : Column → Column}

theorem column?_updateColumn_self (hf : ∀ column, (f column).name = column.name) :
    (table.updateColumn name f).column? name = (table.column? name).map f :=
  find?_updateFirst_self fun column h => by simpa [hf] using h

theorem column?_updateColumn_of_ne (hf : ∀ column, (f column).name = column.name)
    (hne : other ≠ name) : (table.updateColumn name f).column? other = table.column? other := by
  refine find?_updateFirst_of_disjoint ?_ ?_
  · intro column h
    simp_all [Ne.symm hne]
  · intro column h
    simp_all [Ne.symm hne]

/-- Columns that are added at the end are found where there was none of that name. -/
theorem column?_append (columns : List Column) :
    { table with columns := table.columns ++ columns }.column? name =
      (table.column? name).or (columns.find? (·.name = name)) :=
  List.find?_append

end Table

/-! ### References -/

namespace Schema

/-- The reference of the first column of a name in the first table of a name. -/
def reference? (schema : Schema) (endpoint : Endpoint) : Option Reference :=
  (schema.column? endpoint).bind (·.reference)

theorem column?_eq_some {schema : Schema} {endpoint : Endpoint} {column : Column} :
    schema.column? endpoint = some column ↔
      ∃ table, schema.table? endpoint.table = some table ∧
        table.column? endpoint.column = some column :=
  Option.bind_eq_some_iff

theorem reference?_eq_some {schema : Schema} {endpoint : Endpoint} {reference : Reference} :
    schema.reference? endpoint = some reference ↔
      ∃ table column, schema.table? endpoint.table = some table ∧
        table.column? endpoint.column = some column ∧ column.reference = some reference := by
  simp only [reference?, Option.bind_eq_some_iff, column?_eq_some]
  exact ⟨fun ⟨column, ⟨table, htable, hcolumn⟩, href⟩ => ⟨table, column, htable, hcolumn, href⟩,
    fun ⟨table, column, htable, hcolumn, href⟩ => ⟨column, ⟨table, htable, hcolumn⟩, href⟩⟩

end Schema

end Dbml
