import Dbml.Schema.Json
import Dbml.Proofs.Json.Records

/-!
# The parts of a schema are read back

Each part of a schema is read from its JSON value as what it was written for, whatever its flags and
options are (`says_toJson`).  Numbers occur in defaults only, so the value of a part has no others
than its columns have as defaults (`onlyIntegers_toJson`).
-/

namespace Dbml

open Json
open Json.Record

/-! ### Words and defaults -/

theorem Multiplicity.says_toJson (m : Multiplicity) : Says ofJson? m.toJson m := by
  refine ⟨by simp [toJson], ?_⟩
  cases m <;> rfl

theorem ReferentialAction.says_toJson (action : ReferentialAction) :
    Says ofJson? action.toJson action :=
  ⟨by simp [toJson], ofSql?_sql action⟩

theorem DefaultValue.says_toJson (value : DefaultValue) : Says ofJson? value.toJson value := by
  cases value <;> exact ⟨by simp [toJson], rfl⟩

/-! ### Records -/

theorem Cardinality.says_toJson (c : Cardinality) : Says ofJson? c.toJson c := by
  refine ⟨by simp [toJson], ?_⟩
  rw [ofJson?, toJson, ofNode?_object (by simp) (by simp)]
  simp only [Option.bind_eq_bind, Option.bind_some]
  rw [required?_eq ?_ c.source.says_toJson, Option.bind_some,
    required?_eq ?_ c.target.says_toJson, Option.bind_some]
  all_goals simp [List.lookup_cons]

theorem Endpoint.says_toJson (endpoint : Endpoint) : Says ofJson? endpoint.toJson endpoint := by
  refine ⟨by simp [toJson], ?_⟩
  rw [ofJson?, toJson, ofNode?_object (by simp) (by simp)]
  simp only [Option.bind_eq_bind, Option.bind_some]
  rw [required?_eq ?_ (says_string endpoint.table), Option.bind_some,
    required?_eq ?_ (says_string endpoint.column), Option.bind_some]
  all_goals simp [List.lookup_cons]

theorem Reference.says_toJson (r : Reference) : Says ofJson? r.toJson r := by
  have hkeys := (((List.Sublist.refl ["table", "column"]).append
    (keys_optionalField "cardinality" Cardinality.toJson r.cardinality)).append
    (keys_optionalField "onUpdate" ReferentialAction.toJson r.onUpdate)).append
    (keys_optionalField "onDelete" ReferentialAction.toJson r.onDelete)
  refine ⟨by simp [toJson], ?_⟩
  rw [ofJson?, toJson, ofNode?_object (by simp) (by simpa using hkeys)]
  simp only [Option.bind_eq_bind, Option.bind_some]
  rw [required?_eq ?_ (says_string r.table), Option.bind_some,
    required?_eq ?_ (says_string r.column), Option.bind_some,
    optional?_eq r.cardinality ?_ fun c _ => c.says_toJson, Option.bind_some,
    optional?_eq r.onUpdate ?_ fun action _ => action.says_toJson, Option.bind_some,
    optional?_eq r.onDelete ?_ fun action _ => action.says_toJson, Option.bind_some]
  all_goals simp [List.lookup_append, List.lookup_cons]

theorem Column.says_toJson (column : Column) : Says ofJson? column.toJson column := by
  have hkeys := (((((((List.Sublist.refl ["name", "type"]).append
    (keys_flagField "pk" column.primaryKey)).append
    (keys_flagField "unique" column.unique)).append
    (keys_optionalField "nullable" Value.bool column.nullable)).append
    (keys_optionalField "note" Value.string column.note)).append
    (keys_optionalField "default" DefaultValue.toJson column.default)).append
    (keys_flagField "increment" column.increment)).append
    (keys_optionalField "ref" Reference.toJson column.reference)
  refine ⟨by simp [toJson], ?_⟩
  rw [ofJson?, toJson, ofNode?_object (by simp [fieldNames])
    (by simpa [toFields, fieldNames] using hkeys)]
  simp only [Option.bind_eq_bind, Option.bind_some]
  rw [required?_eq ?_ (says_string column.name), Option.bind_some,
    required?_eq ?_ (says_string column.type), Option.bind_some,
    flag?_eq column.primaryKey ?_, Option.bind_some,
    flag?_eq column.unique ?_, Option.bind_some,
    optional?_eq column.nullable ?_ fun b _ => says_bool b, Option.bind_some,
    optional?_eq column.note ?_ fun note _ => says_string note, Option.bind_some,
    optional?_eq column.default ?_ fun value _ => value.says_toJson, Option.bind_some,
    flag?_eq column.increment ?_, Option.bind_some,
    optional?_eq column.reference ?_ fun r _ => r.says_toJson, Option.bind_some]
  all_goals simp [toFields, List.lookup_append, List.lookup_cons]

theorem Relation.says_toJson (r : Relation) : Says ofJson? r.toJson r := by
  have hkeys := ((List.Sublist.refl ["from", "to", "cardinality"]).append
    (keys_optionalField "onUpdate" ReferentialAction.toJson r.onUpdate)).append
    (keys_optionalField "onDelete" ReferentialAction.toJson r.onDelete)
  refine ⟨by simp [toJson], ?_⟩
  rw [ofJson?, toJson, ofNode?_object (by simp) (by simpa using hkeys)]
  simp only [Option.bind_eq_bind, Option.bind_some]
  rw [required?_eq ?_ r.source.says_toJson, Option.bind_some,
    required?_eq ?_ r.target.says_toJson, Option.bind_some,
    required?_eq ?_ r.cardinality.says_toJson, Option.bind_some,
    optional?_eq r.onUpdate ?_ fun action _ => action.says_toJson, Option.bind_some,
    optional?_eq r.onDelete ?_ fun action _ => action.says_toJson, Option.bind_some]
  all_goals simp [List.lookup_append, List.lookup_cons]

theorem Table.says_toJson (table : Table) : Says ofJson? table.toJson table := by
  refine ⟨by simp [toJson], ?_⟩
  rw [ofJson?, toJson, ofNode?_object (by simp) (by simp)]
  simp only [Option.bind_eq_bind, Option.bind_some]
  rw [required?_eq ?_ (says_string table.name), Option.bind_some,
    optional?_or_null table.aliasName ?_ fun name _ => says_string name, Option.bind_some,
    required?_eq ?_ (says_list fun column _ => column.says_toJson), Option.bind_some]
  · simp [List.lookup_cons]
  · cases table.aliasName <;> simp [List.lookup_cons]
  · simp

/-! ### Numbers -/

section OnlyIntegers

variable {α : Type}

theorem onlyIntegers_flagField (name : String) (flag : Bool) :
    ∀ field ∈ flagField name flag, field.2.OnlyIntegers := by
  cases flag
  · simp [flagField]
  · simpa [flagField] using Value.OnlyIntegers.bool true

theorem onlyIntegers_optionalField (name : String) {write : α → Value} {option : Option α}
    (h : ∀ x ∈ option, (write x).OnlyIntegers) :
    ∀ field ∈ optionalField name write option, field.2.OnlyIntegers := by
  cases option with
  | none => simp [optionalField]
  | some x => simpa [optionalField] using h

theorem onlyIntegers_list {write : α → Value} {xs : List α} (h : ∀ x ∈ xs, (write x).OnlyIntegers) :
    (Value.array (xs.map write)).OnlyIntegers :=
  .array (List.forall_mem_map.mpr h)

end OnlyIntegers

theorem Cardinality.onlyIntegers_toJson (c : Cardinality) : c.toJson.OnlyIntegers :=
  .object (by simp [Multiplicity.toJson, Value.OnlyIntegers.string])

theorem Endpoint.onlyIntegers_toJson (endpoint : Endpoint) : endpoint.toJson.OnlyIntegers :=
  .object (by simp [Value.OnlyIntegers.string])

theorem Reference.onlyIntegers_toJson (r : Reference) : r.toJson.OnlyIntegers := by
  refine .object ?_
  simp only [List.forall_mem_append]
  refine ⟨⟨⟨by simp [Value.OnlyIntegers.string], ?_⟩, ?_⟩, ?_⟩
  · exact onlyIntegers_optionalField _ fun c _ => c.onlyIntegers_toJson
  · exact onlyIntegers_optionalField _ fun action _ => .string action.sql
  · exact onlyIntegers_optionalField _ fun action _ => .string action.sql

theorem Relation.onlyIntegers_toJson (r : Relation) : r.toJson.OnlyIntegers := by
  refine .object ?_
  simp only [List.forall_mem_append]
  refine ⟨⟨?_, ?_⟩, ?_⟩
  · simp [Endpoint.onlyIntegers_toJson, Cardinality.onlyIntegers_toJson]
  · exact onlyIntegers_optionalField _ fun action _ => .string action.sql
  · exact onlyIntegers_optionalField _ fun action _ => .string action.sql

/-- A default that is a number is an integer of 64 bits. -/
def Column.HasIntegerDefault (column : Column) : Prop :=
  ∀ n, column.default = some (.number n) → n.IsInteger

theorem Column.onlyIntegers_toJson {column : Column} (h : column.HasIntegerDefault) :
    column.toJson.OnlyIntegers := by
  have hdefault : ∀ value ∈ column.default, value.toJson.OnlyIntegers := by
    intro value hvalue
    cases value with
    | bool b => exact .bool b
    | number n => exact .number (h n hvalue)
    | text s => exact .string s
  refine .object ?_
  simp only [toFields, List.forall_mem_append]
  refine ⟨⟨⟨⟨⟨⟨⟨?_, ?_⟩, ?_⟩, ?_⟩, ?_⟩, ?_⟩, ?_⟩, ?_⟩
  · simp [Value.OnlyIntegers.string]
  · exact onlyIntegers_flagField _ _
  · exact onlyIntegers_flagField _ _
  · exact onlyIntegers_optionalField _ fun b _ => .bool b
  · exact onlyIntegers_optionalField _ fun note _ => .string note
  · exact onlyIntegers_optionalField _ hdefault
  · exact onlyIntegers_flagField _ _
  · exact onlyIntegers_optionalField _ fun r _ => r.onlyIntegers_toJson

theorem Table.onlyIntegers_toJson {table : Table}
    (h : ∀ column ∈ table.columns, column.HasIntegerDefault) : table.toJson.OnlyIntegers := by
  have hcolumns : (Value.array (table.columns.map Column.toJson)).OnlyIntegers :=
    onlyIntegers_list fun column hcolumn => Column.onlyIntegers_toJson (h column hcolumn)
  refine .object ?_
  cases table.aliasName <;>
    simp [Value.OnlyIntegers.string, Value.OnlyIntegers.null, hcolumns]

end Dbml
