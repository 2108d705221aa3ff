import Dbml.Linking
import Dbml.Source.Scan

/-!
# From a source to a schema

A source is scanned, and what it states is linked.  The lenient mode makes a schema of every text.
-/

namespace Dbml

/-- The schema that a source defines. -/
def parse (mode : Mode) (source : List Char) : Parsing Schema := do
  let scan ← Source.scan mode source
  ExceptT.lift
    (Linking.link { tables := scan.tables, metadata := scan.metadata } scan.relations)

namespace Parsing

variable {α : Type}

/-- What a computation that reports events comes to. -/
def outcome (x : Parsing α) : Except ParseError α :=
  x.run.value

/-- The events that a computation reports. -/
def events (x : Parsing α) : List Event :=
  x.run.events

end Parsing

end Dbml
