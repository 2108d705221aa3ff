import Dbml.Json.Record
import Dbml.Proofs.Json.Values

/-!
# Records are read back

A record is written with some of its fields, in the order of their names.  So none of the keys is
unknown or given twice, and reading takes all of them (`ofNode?_object`).  What is read for a name
is then the value that was written for it, and nothing for a name that was left out (`required?_eq`,
`flag?_eq`, `optional?_eq`).
-/

namespace Dbml.Json

variable {α : Type}

/-- The value is not null and is read as `x`. -/
structure Says (read? : Node → Option α) (value : Value) (x : α) : Prop where
  ne_null : value ≠ .null
  read : read? (Node.ofValue value) = some x

theorem says_string (text : String) : Says Node.string? (.string text) text :=
  ⟨by simp, rfl⟩

theorem says_bool (b : Bool) : Says Node.bool? (.bool b) b :=
  ⟨by simp, rfl⟩

/-- A list is read item by item. -/
theorem says_list {read? : Node → Option α} {write : α → Value} {xs : List α}
    (h : ∀ x ∈ xs, Says read? (write x) x) :
      Says (Node.list? read?) (.array (xs.map write)) xs := by
  refine ⟨by simp, ?_⟩
  simp only [Node.ofValue, Node.ofItems_eq, Node.list?]
  induction xs with
  | nil => rfl
  | cons x xs ih =>
      rw [List.forall_mem_cons] at h
      rw [List.map_cons, List.map_cons, List.mapM_cons, h.1.read, ih h.2]
      rfl

/-! ### The keys of written fields -/

theorem keys_flagField (name : String) (flag : Bool) :
    ((flagField name flag).map (·.1)).Sublist [name] := by
  cases flag <;> simp [flagField]

theorem keys_optionalField (name : String) (write : α → Value) (option : Option α) :
    ((optionalField name write option).map (·.1)).Sublist [name] := by
  cases option <;> simp [optionalField]

@[simp] theorem lookup_flagField (name key : String) (flag : Bool) :
    (flagField name flag).lookup key =
      if key = name then (if flag then some (.bool true) else none) else none := by
  by_cases h : key = name <;> cases flag <;> simp [flagField, List.lookup_cons, beq_false_of_ne, h]

@[simp] theorem lookup_optionalField (name key : String) (write : α → Value) (option : Option α) :
    (optionalField name write option).lookup key =
      if key = name then option.map write else none := by
  by_cases h : key = name <;> cases option <;>
    simp [optionalField, List.lookup_cons, beq_false_of_ne, h]

namespace Record

variable {fields : List (String × Value)} {name : String}

/-- The record that has exactly these fields. -/
def ofFields (fields : List (String × Value)) : Record :=
  fields.map fun field => (field.1, Node.ofValue field.2)

theorem lookup_ofFields (fields : List (String × Value)) (name : String) :
    (ofFields fields).lookup name = (fields.lookup name).map Node.ofValue := by
  induction fields with
  | nil => rfl
  | cons field fields ih =>
      rw [ofFields, List.map_cons, List.lookup_cons, List.lookup_cons]
      cases name == field.1 with
      | true => rfl
      | false => exact ih

theorem ofFields?_ofFields {names : List String} (hknown : ∀ key ∈ fields.map (·.1), key ∈ names)
    (hkeys : (fields.map (·.1)).Nodup) :
    ofFields? names (Node.ofFields fields) = some (ofFields fields) := by
  induction fields with
  | nil => rfl
  | cons field fields ih =>
      rw [List.map_cons, List.forall_mem_cons] at hknown
      rw [List.map_cons, List.nodup_cons] at hkeys
      have hfresh : (ofFields fields).any (·.1 == field.1) = false := by
        rw [List.any_eq_false]
        intro entry hentry heq
        obtain ⟨other, hother, rfl⟩ := List.mem_map.mp hentry
        exact hkeys.1 (List.mem_map.mpr ⟨other, hother, by simpa using heq⟩)
      simp only [Node.ofFields, ofFields?, Option.bind_eq_bind, Option.bind_some,
        ih hknown.2 hkeys.2, hfresh]
      simp [hknown.1, ofFields]

/-- Fields with some of the names, in their order, are read as a record. -/
theorem ofNode?_object {names : List String} (hnames : names.Nodup)
    (hkeys : (fields.map (·.1)).Sublist names) :
    ofNode? names (Node.ofValue (.object fields)) = some (ofFields fields) :=
  ofFields?_ofFields (fun _ hkey => hkeys.subset hkey) (hkeys.nodup hnames)

/-! ### Reading single fields -/

variable {read? : Node → Option α}

theorem required?_eq {value : Value} {x : α} (hlookup : fields.lookup name = some value)
    (h : Says read? value x) : (ofFields fields).required? name read? = some x := by
  rw [required?, lookup_ofFields, hlookup, Option.map_some, Option.bind_some, h.read]

theorem flag?_eq (flag : Bool)
    (hlookup : fields.lookup name = if flag then some (.bool true) else none) :
    (ofFields fields).flag? name = some flag := by
  rw [flag?, lookup_ofFields, hlookup]
  cases flag <;> rfl

theorem optional?_eq {write : α → Value} (option : Option α)
    (hlookup : fields.lookup name = option.map write) (h : ∀ x ∈ option, Says read? (write x) x) :
    (ofFields fields).optional? name read? = some option := by
  rw [optional?, lookup_ofFields, hlookup]
  cases option with
  | none => rfl
  | some x =>
      obtain ⟨hne, hread⟩ := h x rfl
      have hnode : Node.ofValue (write x) ≠ .null := by
        cases hwrite : write x <;> simp_all [Node.ofValue]
      simp only [Option.map_some, hread]

/-- A field may be there with null in it. -/
theorem optional?_or_null {write : α → Value} (option : Option α)
    (hlookup : fields.lookup name = some (option.elim .null write))
    (h : ∀ x ∈ option, Says read? (write x) x) :
    (ofFields fields).optional? name read? = some option := by
  cases option with
  | none =>
      rw [optional?, lookup_ofFields, hlookup]
      rfl
  | some x => exact optional?_eq (some x) hlookup h

end Record

end Dbml.Json
