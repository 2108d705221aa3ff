/-!
# Keyed lists

A list of keys with their values, in the order in which the keys were first set.
-/

namespace Dbml

/-- Keys with their values. -/
abbrev Keyed (α : Type) := List (String × α)

/-- The list with the value of a key set.  A key that is already there keeps its place. -/
def Keyed.set {α : Type} (key : String) (value : α) : Keyed α → Keyed α
  | [] => [(key, value)]
  | entry :: rest =>
    if entry.1 = key then (key, value) :: rest else entry :: Keyed.set key value rest

end Dbml
