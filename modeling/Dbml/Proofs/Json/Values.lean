import Dbml.Json.Reader
import Dbml.Proofs.Json.Literals

/-!
# Values that a text carries

Two things decide whether a value is the same when its text is read again.  Its numbers have to be
integers that 64 bits hold, since other literals are read with roundings (`OnlyIntegers`).  And its
arrays and objects must not be nested too deep, with no key set twice in one object (`FitsIn`).

A value that fits is the value of its own node (`toValue?_ofValue`): fields with distinct keys are
set one behind another, since a keyed list puts a new key at its end (`Keyed.set_of_not_mem`).
-/

namespace Dbml

/-! ### Keyed lists -/

namespace Keyed

variable {α : Type} {key : String} {before : Keyed α}

/-- A key that is not set yet comes behind the others. -/
theorem set_of_not_mem (h : key ∉ before.map (·.1)) (value : α) :
    set key value before = before ++ [(key, value)] := by
  induction before with
  | nil => rfl
  | cons entry before ih =>
      simp only [List.map_cons, List.mem_cons, not_or] at h
      rw [set, if_neg (Ne.symm h.1), ih h.2, List.cons_append]

/-- A key that is set already keeps its place. -/
theorem keys_set_of_mem (h : key ∈ before.map (·.1)) (value : α) :
    (set key value before).map (·.1) = before.map (·.1) := by
  induction before with
  | nil => contradiction
  | cons entry before ih =>
      rw [set]
      split
      · rename_i heq
        simp [heq]
      · rename_i hne
        rw [List.map_cons, List.mem_cons] at h
        rw [List.map_cons, List.map_cons, ih (h.resolve_left (Ne.symm hne))]

theorem nodup_keys_set (h : (before.map (·.1)).Nodup) (key : String) (value : α) :
    ((set key value before).map (·.1)).Nodup := by
  by_cases hkey : key ∈ before.map (·.1)
  · rwa [keys_set_of_mem hkey]
  · rw [set_of_not_mem hkey, List.map_append, List.map_singleton]
    refine List.nodup_append.mpr ⟨h, by simp, fun other hother last hlast heq => hkey ?_⟩
    rwa [heq, List.mem_singleton.mp hlast] at hother

theorem mem_set {value : α} {entry : String × α} (h : entry ∈ set key value before) :
    entry = (key, value) ∨ entry ∈ before := by
  induction before with
  | nil => exact .inl (List.mem_singleton.mp h)
  | cons first before ih =>
      rw [set] at h
      split at h <;> rw [List.mem_cons] at h ⊢
      · exact h.imp_right .inr
      · rcases h with rfl | h
        · exact .inr (.inl rfl)
        · exact (ih h).imp_right .inr

end Keyed

namespace Json

namespace Value

/-- All numbers in the value are integers of 64 bits. -/
inductive OnlyIntegers : Value → Prop
  | null : OnlyIntegers .null
  | bool (b : Bool) : OnlyIntegers (.bool b)
  | number {n : Number} (h : n.IsInteger) : OnlyIntegers (.number n)
  | string (s : String) : OnlyIntegers (.string s)
  | array {items : List Value} (h : ∀ item ∈ items, OnlyIntegers item) :
    OnlyIntegers (.array items)
  | object {fields : List (String × Value)} (h : ∀ field ∈ fields, OnlyIntegers field.2) :
    OnlyIntegers (.object fields)

/-- The value is nested at most `room` levels deep, and no object in it has a key twice. -/
inductive FitsIn : Nat → Value → Prop
  | null (room : Nat) : FitsIn room .null
  | bool (room : Nat) (b : Bool) : FitsIn room (.bool b)
  | number (room : Nat) (n : Number) : FitsIn room (.number n)
  | string (room : Nat) (s : String) : FitsIn room (.string s)
  | array {room : Nat} {items : List Value} (h : ∀ item ∈ items, FitsIn room item) :
    FitsIn (room + 1) (.array items)
  | object {room : Nat} {fields : List (String × Value)} (hkeys : (fields.map (·.1)).Nodup)
    (h : ∀ field ∈ fields, FitsIn room field.2) : FitsIn (room + 1) (.object fields)

/-! ### Items and fields one by one -/

theorem prettyItems_eq (indent : Nat) (items : List Value) :
    prettyItems indent items = items.map (pretty indent) := by
  induction items with
  | nil => rfl
  | cons item items ih => simp [prettyItems, ih]

/-- The lines of a field. -/
def prettyField (indent : Nat) (field : String × Value) : List Char :=
  stringLiteral field.1.toList ++ [':', ' '] ++ pretty indent field.2

theorem prettyFields_eq (indent : Nat) (fields : List (String × Value)) :
    prettyFields indent fields = fields.map (prettyField indent) := by
  induction fields with
  | nil => rfl
  | cons field fields ih => simp [prettyFields, prettyField, ih]

end Value

namespace Node

/-- The node of a field. -/
def ofField (field : String × Value) : Option String × Node :=
  (some field.1, ofValue field.2)

theorem ofItems_eq (items : List Value) : ofItems items = items.map ofValue := by
  induction items with
  | nil => rfl
  | cons item items ih => simp [ofItems, ih]

theorem ofFields_eq (fields : List (String × Value)) : ofFields fields = fields.map ofField := by
  induction fields with
  | nil => rfl
  | cons field fields ih => simp [ofFields, ofField, ih]

end Node

/-! ### From nodes back to values -/

section ToValue

variable {room : Nat}

theorem toItems?_ofItems {items : List Value}
    (h : ∀ item ∈ items, (Node.ofValue item).toValue? room = some item) :
    Node.toItems? room (Node.ofItems items) = some items := by
  induction items with
  | nil => rfl
  | cons item items ih =>
      rw [List.forall_mem_cons] at h
      simp [Node.ofItems, Node.toItems?, h.1, ih h.2]

/-- Fields with keys of their own are set one behind another. -/
theorem toFields?_ofFields {fields before : List (String × Value)}
    (hkeys : ((before ++ fields).map (·.1)).Nodup)
    (h : ∀ field ∈ fields, (Node.ofValue field.2).toValue? room = some field.2) :
    Node.toFields? room before (Node.ofFields fields) = some (before ++ fields) := by
  induction fields generalizing before with
  | nil => simp [Node.ofFields, Node.toFields?]
  | cons field fields ih =>
      rw [List.forall_mem_cons] at h
      have hfresh : field.1 ∉ before.map (·.1) := by
        rw [List.map_append, List.nodup_append] at hkeys
        intro hmem
        exact hkeys.2.2 _ hmem _ (by simp) rfl
      have hrest : (((before ++ [field]) ++ fields).map (·.1)).Nodup := by
        rwa [List.append_assoc, List.singleton_append]
      simp [Node.ofFields, Node.toFields?, h.1, Keyed.set_of_not_mem hfresh, ih hrest h.2]

/-- The node of a value that fits in the room is turned into the value. -/
theorem toValue?_ofValue {value : Value} (h : value.FitsIn room) :
    (Node.ofValue value).toValue? room = some value := by
  induction h with
  | null | bool | number | string => rfl
  | array _ ih => simp [Node.ofValue, Node.toValue?, toItems?_ofItems ih]
  | @object room fields hkeys _ ih =>
      have hfields : Node.toFields? room [] (Node.ofFields fields) = some fields :=
        toFields?_ofFields hkeys ih
      simp [Node.ofValue, Node.toValue?, hfields]

end ToValue

end Json

end Dbml
