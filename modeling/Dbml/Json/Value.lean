import Dbml.Json.Number
import Dbml.Keyed

/-!
# JSON values

Objects keep their fields in the order in which the keys were first set.
-/

namespace Dbml.Json

/-- A JSON value. -/
inductive Value where
  | null
  | bool (b : Bool)
  | number (n : Number)
  | string (s : String)
  | array (items : List Value)
  | object (fields : List (String × Value))
  deriving Repr, Inhabited

namespace Value

mutual

/-- Equality of values, where the fields of objects have to come in the same order. -/
def numericEq : Value → Value → Bool
  | .null, .null => true
  | .bool a, .bool b => a == b
  | .number m, .number n => m.numericEq n
  | .string s, .string t => s == t
  | .array xs, .array ys => itemsEq xs ys
  | .object xs, .object ys => fieldsEq xs ys
  | _, _ => false

/-- Equality of the items of two arrays. -/
def itemsEq : List Value → List Value → Bool
  | [], [] => true
  | x :: xs, y :: ys => numericEq x y && itemsEq xs ys
  | _, _ => false

/-- Equality of the fields of two objects. -/
def fieldsEq : List (String × Value) → List (String × Value) → Bool
  | [], [] => true
  | (key, x) :: xs, (other, y) :: ys => key == other && numericEq x y && fieldsEq xs ys
  | _, _ => false

end

/-- The text of a string value. -/
def string? : Value → Option String
  | .string s => some s
  | _ => none

end Value

end Dbml.Json
