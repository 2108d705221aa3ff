import Dbml.Json.Reader

/-!
# Records in JSON

A record is an object with known fields.  Unknown fields are passed over, whatever they hold; a
known field may be given once at most.  An array stands for a record as well, with the values of
the fields in their order, of which the last ones may be missing.
-/

namespace Dbml.Json

/-- The fields of a record that are given. -/
abbrev Record := List (String × Node)

namespace Record

/-- The known fields among those of an object. -/
def ofFields? (names : List String) : List (Option String × Node) → Option Record
  | [] => some []
  | (key, node) :: rest => do
    let key ← key
    let known ← ofFields? names rest
    if !names.contains key then some known
    else if known.any (·.1 == key) then none
    else some ((key, node) :: known)

/-- The record with fields of the given names that a node says. -/
def ofNode? (names : List String) : Node → Option Record
  | .object fields => ofFields? names fields
  | .array items => if names.length < items.length then none else some (names.zip items)
  | _ => none

/-- A field that has to be there. -/
def required? {α : Type} (record : Record) (name : String) (read? : Node → Option α) : Option α :=
  (record.lookup name).bind read?

/-- A field that may be missing or null. -/
def optional? {α : Type} (record : Record) (name : String) (read? : Node → Option α) :
    Option (Option α) :=
  match record.lookup name with
  | none => some none
  | some .null => some none
  | some node => (read? node).map some

end Record

namespace Node

/-- The text of a string. -/
def string? : Node → Option String
  | .string text => text
  | _ => none

/-- The value of a truth value. -/
def bool? : Node → Option Bool
  | .bool b => some b
  | _ => none

/-- The items of an array. -/
def list? {α : Type} (read? : Node → Option α) : Node → Option (List α)
  | .array items => items.mapM read?
  | _ => none

/-- One of several words: a string, or an object whose one key is the word and whose value is
null. -/
def word? : Node → Option String
  | .string text => text
  | .object [(key, .null)] => key
  | _ => none

end Node

/-- A flag that is false when it is missing. -/
def Record.flag? (record : Record) (name : String) : Option Bool :=
  match record.lookup name with
  | none => some false
  | some node => node.bool?

/-- The field of a flag, which is written only when the flag is set. -/
def flagField (name : String) (flag : Bool) : List (String × Value) :=
  if flag then [(name, .bool true)] else []

/-- A field that is written only when there is something in it. -/
def optionalField {α : Type} (name : String) (write : α → Value) :
    Option α → List (String × Value)
  | none => []
  | some x => [(name, write x)]

end Dbml.Json
