import Dbml.Schema.Basic
import Dbml.Text.Blank
import Dbml.Text.Case

/-!
# Referential actions

An action has a spelling in SQL, which is also that of the schema in JSON, and one of Prisma.  In a
source it is written in words, of whatever case and with whatever blanks between them.
-/

namespace Dbml.ReferentialAction

/-- The spelling in SQL. -/
def sql : ReferentialAction → String
  | .cascade => "CASCADE"
  | .setNull => "SET NULL"
  | .setDefault => "SET DEFAULT"
  | .noAction => "NO ACTION"
  | .restrict => "RESTRICT"

/-- The spelling in Prisma. -/
def prisma : ReferentialAction → String
  | .cascade => "Cascade"
  | .setNull => "SetNull"
  | .setDefault => "SetDefault"
  | .noAction => "NoAction"
  | .restrict => "Restrict"

/-- All actions. -/
def all : List ReferentialAction :=
  [.cascade, .setNull, .setDefault, .noAction, .restrict]

/-- The action of a spelling in SQL. -/
def ofSql? (text : String) : Option ReferentialAction :=
  all.find? (·.sql = text)

theorem ofSql?_sql (action : ReferentialAction) : ofSql? action.sql = some action := by
  cases action <;> decide

/-- The action that words name. -/
def ofWords? : List String → Option ReferentialAction
  | ["cascade"] => some .cascade
  | ["set", "null"] => some .setNull
  | ["set", "default"] => some .setDefault
  | ["no", "action"] => some .noAction
  | ["restrict"] => some .restrict
  | _ => none

/-- The action that a text names. -/
def ofText? (text : String) : Option ReferentialAction :=
  ofWords? ((Text.words text.toList).map fun word => String.ofList (Text.lowercase word))

end Dbml.ReferentialAction
