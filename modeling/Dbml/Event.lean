import Dbml.Schema.Basic
import Dbml.Token.Lexer

/-!
# Events

Conversion reports what it leaves out and what it adds on the way from a source to its output.  A
computation that reports is a value together with the events before it.
-/

namespace Dbml

/-- How much attention an event deserves. -/
inductive Level where
  | debug
  | trace
  deriving DecidableEq, Repr

/-- Something that happens during a conversion. -/
inductive Event where
  /-- The lexer failed, and the rest of the line is ignored. -/
  | restOfLineIgnored (line : Nat) (error : LexError)
  /-- A block whose content is ignored begins. -/
  | blockSkipped (line : Nat)
  /-- A table begins. -/
  | tableOpened (table : String)
  /-- A relation between tables is stated on its own. -/
  | relationRegistered (source : String) (op : RelationOp) (target : String)
  /-- Tokens after the definition of a column are ignored. -/
  | trailingTokensIgnored (line : Nat) (text : String) (column : String)
  /-- A statement is not understood. -/
  | statementSkipped (line : Nat) (text : String)
  /-- A many-to-many relation gets a table of its own. -/
  | junctionTableCreated (table : String)
  /-- A junction table gets a foreign key that it lacks. -/
  | junctionColumnAdded (table : String) (column : String)
  /-- A table gets a foreign key that a relation needs. -/
  | foreignKeyAdded (table : String) (column : String)
  /-- A relation joins the columns of an earlier one. -/
  | duplicateRelationDropped (source : String) (target : String)
  /-- The project names a database that has no provider. -/
  | unknownDatabaseType (name : String)
  /-- A model leaves out a foreign key whose table does not exist. -/
  | modelKeySkipped (table : String) (column : String)
  /-- An entity leaves out a foreign key whose table does not exist. -/
  | entityKeySkipped (table : String) (column : String) (target : String)
  deriving DecidableEq, Repr

namespace Event

/-- What happens to single statements of a source is traced; all else is worth a look when something
is wrong. -/
def level : Event → Level
  | .restOfLineIgnored .. | .blockSkipped .. | .trailingTokensIgnored ..
  | .statementSkipped .. => .trace
  | _ => .debug

/-- The wording of an event. -/
def message : Event → String
  | .restOfLineIgnored .. => "ignoring rest of line"
  | .blockSkipped .. => "skipping block"
  | .tableOpened .. => "opening table"
  | .relationRegistered .. => "registering relation"
  | .trailingTokensIgnored .. => "ignoring trailing tokens after column"
  | .statementSkipped .. => "skipping unrecognized statement"
  | .junctionTableCreated .. => "creating junction table"
  | .junctionColumnAdded .. => "adding junction FK column"
  | .foreignKeyAdded .. => "adding missing FK column"
  | .duplicateRelationDropped .. => "dropping duplicate relation"
  | .unknownDatabaseType .. => "unknown database type, using default provider"
  | .modelKeySkipped .. | .entityKeySkipped .. => "skipping FK to unknown table"

/-- The particulars of an event, in the order of their names. -/
def fields : Event → List (String × String)
  | .restOfLineIgnored line error => [("error", error.message), ("line", line.repr)]
  | .blockSkipped line => [("line", line.repr)]
  | .tableOpened table => [("table", table)]
  | .relationRegistered source op target =>
    [("from", source), ("op", op.symbol), ("to", target)]
  | .trailingTokensIgnored line text column =>
    [("column", column), ("line", line.repr), ("text", text)]
  | .statementSkipped line text => [("line", line.repr), ("text", text)]
  | .junctionTableCreated table => [("table", table)]
  | .junctionColumnAdded table column | .foreignKeyAdded table column
  | .modelKeySkipped table column => [("column", column), ("table", table)]
  | .duplicateRelationDropped source target => [("from", source), ("to", target)]
  | .unknownDatabaseType name => [("database_type", name)]
  | .entityKeySkipped table column target =>
    [("column", column), ("table", table), ("target", target)]

end Event

/-- A value and the events that were reported before it was there. -/
structure Traced (α : Type) where
  events : List Event
  value : α

namespace Traced

instance : Monad Traced where
  pure x := ⟨[], x⟩
  bind x f := ⟨x.events ++ (f x.value).events, (f x.value).value⟩

variable {α β : Type}

@[simp] theorem value_pure (x : α) : (pure x : Traced α).value = x := rfl

@[simp] theorem events_pure (x : α) : (pure x : Traced α).events = [] := rfl

@[simp] theorem value_bind (x : Traced α) (f : α → Traced β) :
    (x >>= f).value = (f x.value).value := rfl

@[simp] theorem events_bind (x : Traced α) (f : α → Traced β) :
    (x >>= f).events = x.events ++ (f x.value).events := rfl

/-- Events are kept in the order in which they were reported, however a computation is put
together. -/
instance : LawfulMonad Traced := LawfulMonad.mk' Traced
  (fun x => by simp [Functor.map])
  (fun _ _ => by simp [bind, pure])
  (fun _ _ _ => by simp [bind, List.append_assoc])

/-- Reports one event. -/
def report (event : Event) : Traced Unit := ⟨[event], ()⟩

end Traced

end Dbml
