import Dbml.Event
import Dbml.Source.Column

/-!
# Scanning a source

A source is scanned line by line and statement by statement.  The state of the scan is the schema so
far, the relations stated so far, and the blocks that are open.

* A line in which lexing fails counts up to the failure.
* A statement that is not understood is skipped.
* What follows the definition of a column is ignored.

All three are objections.  The lenient mode reports an objection and goes on; the strict mode fails
with it.  Content of a skipped block gives rise to no objection.
-/

namespace Dbml

/-- What a source is refused for. -/
inductive ParseError where
  | lex (line : Nat) (error : LexError)
  | unrecognized (line : Nat) (text : String)
  /-- A table is still open at the end of the source. -/
  | unclosedTable (name : String)
  /-- An open block belongs to a table that the schema does not have. -/
  | noSuchTable (index : Nat)
  deriving DecidableEq, Repr

/-- The wording of an error. -/
def ParseError.message : ParseError → String
  | .lex line error => "Lex error on line " ++ line.repr ++ ": " ++ error.message
  | .unrecognized line text => "Unrecognized statement on line " ++ line.repr ++ ": " ++ text
  | .unclosedTable name => "Table `" ++ name ++ "` is never closed"
  | .noSuchTable index =>
    "Internal parser error: table index " ++ index.repr ++ " out of range"

/-- Whether objections end the scan. -/
inductive Mode where
  | lenient
  | strict
  deriving DecidableEq, Repr

/-- A computation that reports events and may refuse the source. -/
abbrev Parsing := ExceptT ParseError Traced

namespace Source

/-- Reports an event. -/
def report (event : Event) : Parsing Unit :=
  ExceptT.lift (Traced.report event)

/-- A reason to refuse a source that can also be passed over. -/
inductive Objection where
  | lex (line : Nat) (error : LexError)
  | unrecognized (line : Nat) (text : String)
  | trailing (line : Nat) (text : String) (column : String)
  deriving DecidableEq, Repr

namespace Objection

/-- The error for which the strict mode refuses the source. -/
def toError : Objection → ParseError
  | .lex line error => .lex line error
  | .unrecognized line text => .unrecognized line text
  | .trailing line text _ => .unrecognized line text

/-- The event that the lenient mode reports. -/
def toEvent : Objection → Event
  | .lex line error => .restOfLineIgnored line error
  | .unrecognized line text => .statementSkipped line text
  | .trailing line text column => .trailingTokensIgnored line text column

end Objection

/-- Fails with an objection or passes over it. -/
def raise (mode : Mode) (objection : Objection) : Parsing Unit :=
  match mode with
  | .strict => throw objection.toError
  | .lenient => report objection.toEvent

/-! ### The state -/

/-- A block that is open. -/
inductive Block where
  /-- The table of this index. -/
  | table (index : Nat)
  | project
  /-- A block whose content is ignored. -/
  | skipped
  deriving DecidableEq, Repr

/-- The state of a scan: the tables and settings so far, the relations in the order in which
they were stated, and the open blocks, innermost first. -/
structure Scan where
  tables : List Table := []
  metadata : Option (Keyed Json.Value) := none
  relations : List NamedRelation := []
  blocks : List Block := []

namespace Scan

/-- The scan with another table, whose block is open.  It takes the place of an open table. -/
def openTable (scan : Scan) (header : TableHeader) : Scan :=
  let blocks :=
    match scan.blocks with
    | .table _ :: outer => outer
    | blocks => blocks
  { scan with
    tables := scan.tables ++ [{ name := header.name, aliasName := header.aliasName }]
    blocks := .table scan.tables.length :: blocks }

/-- The scan with a setting of the project. -/
def setMetadata (scan : Scan) (key : String) (value : String) : Scan :=
  { scan with metadata := some (Keyed.set key (.string value) (scan.metadata.getD [])) }

/-- The scan with the block of the project open, whose name is one of its settings. -/
def openProject (scan : Scan) (name : Option String) : Scan :=
  let entered :=
    { scan with metadata := some (scan.metadata.getD []), blocks := .project :: scan.blocks }
  match name with
  | some name => entered.setMetadata "name" name
  | none => entered

/-- The scan with another relation. -/
def addRelation (scan : Scan) (relation : NamedRelation) : Scan :=
  { scan with relations := scan.relations ++ [relation] }

/-- The relation that the settings of a column state. -/
def columnRelation? (table : String) (column : Column) : Option NamedRelation :=
  column.reference.map fun r =>
    { relation :=
        { source := ⟨table, column.name⟩
          target := ⟨r.table, r.column⟩
          cardinality := r.cardinality.getD .manyToOne
          onUpdate := r.onUpdate
          onDelete := r.onDelete } }

/-- The scan with another column of the table `table` at `index`, and with its relation. -/
def addColumn (scan : Scan) (index : Nat) (table : Table) (column : Column) : Scan :=
  { scan with
    tables := scan.tables.set index { table with columns := table.columns ++ [column] }
    relations := scan.relations ++ (columnRelation? table.name column).toList }

/-! ### Statements -/

/-- A place in the source: the number of a line and its text. -/
structure Place where
  line : Nat
  text : String

/-- Passes over a statement, unless the mode is strict. -/
def unrecognized (mode : Mode) (place : Place) (scan : Scan) : Parsing Scan := do
  raise mode (.unrecognized place.line place.text)
  return scan

/-- A statement outside of all blocks: a relation. -/
def topLevelStatement (mode : Mode) (place : Place) (tokens : List Token) (scan : Scan) :
    Parsing Scan :=
  match relation? tokens with
  | some named => do
    let relation := named.relation
    report (.relationRegistered relation.source.table relation.cardinality.op relation.target.table)
    return scan.addRelation named
  | none => unrecognized mode place scan

/-- A statement in a table: a column or a note. -/
def tableStatement (mode : Mode) (place : Place) (index : Nat) (tokens : List Token)
    (scan : Scan) : Parsing Scan :=
  match column? tokens with
  | none => if isNote tokens then return scan else unrecognized mode place scan
  | some (column, rest) => do
    if !rest.isEmpty then raise mode (.trailing place.line place.text column.name)
    match scan.tables[index]? with
    | none => throw (.noSuchTable index)
    | some table => return scan.addColumn index table column

/-- A statement in the project: a setting. -/
def projectStatement (mode : Mode) (place : Place) (tokens : List Token) (scan : Scan) :
    Parsing Scan :=
  match tokens with
  | [.ident key, .colon, .str value] => return scan.setMetadata key value
  | .ident key :: .colon :: value => return scan.setMetadata key (Token.render value)
  | _ => unrecognized mode place scan

/-- The end of the innermost block. -/
def closeBlock (mode : Mode) (place : Place) (scan : Scan) : Parsing Scan :=
  match scan.blocks with
  | [] => unrecognized mode place scan
  | _ :: outer => return { scan with blocks := outer }

/-- The header of a table, where a table may begin: outside of all blocks or in another table. -/
def tableHeader? (scan : Scan) (tokens : List Token) : Option TableHeader :=
  match scan.blocks with
  | [] | .table _ :: _ => TableHeader.ofTokens? tokens
  | _ => none

/-- The beginning of a block that is no table: the project outside of all blocks, or a block to
skip. -/
def openBlock (place : Place) (tokens : List Token) (scan : Scan) : Parsing Scan :=
  match scan.blocks, projectHeader? tokens with
  | [], some name => return scan.openProject name
  | blocks, _ => do
    report (.blockSkipped place.line)
    return { scan with blocks := .skipped :: blocks }

/-- Any statement. -/
def statement (mode : Mode) (place : Place) (tokens : List Token) (scan : Scan) : Parsing Scan :=
  if tokens = [.rightBrace] then scan.closeBlock mode place
  else
    match scan.tableHeader? tokens with
    | some header => do
      report (.tableOpened header.name)
      return scan.openTable header
    | none =>
      if tokens.getLast? = some .leftBrace then scan.openBlock place tokens
      else
        match scan.blocks with
        | [] => scan.topLevelStatement mode place tokens
        | .table index :: _ => scan.tableStatement mode place index tokens
        | .project :: _ => scan.projectStatement mode place tokens
        | .skipped :: _ => return scan

/-! ### Lines -/

/-- Several statements of one line. -/
def lineStatements (mode : Mode) (place : Place) :
    List (List Token) → Scan → Parsing Scan
  | [], scan => return scan
  | tokens :: rest, scan => do
    lineStatements mode place rest (← scan.statement mode place tokens)

/-- A failure of the lexer, which is no objection in a skipped block. -/
def lexFailure (mode : Mode) (line : Nat) (error : LexError) (scan : Scan) : Parsing Unit :=
  match scan.blocks with
  | .skipped :: _ => report (.restOfLineIgnored line error)
  | _ => raise mode (.lex line error)

/-- One line of the source. -/
def scanLine (mode : Mode) (number : Nat) (line : List Char) (scan : Scan) : Parsing Scan := do
  let text := Text.trim line
  let (tokens, error) := Lexer.tokenize text
  match error with
  | some error => scan.lexFailure mode number error
  | none => pure ()
  lineStatements mode ⟨number, String.ofList text⟩ (statements tokens) scan

/-- The lines from the given number on. -/
def scanLines (mode : Mode) : Nat → List (List Char) → Scan → Parsing Scan
  | _, [], scan => return scan
  | number, line :: rest, scan => do
    scanLines mode (number + 1) rest (← scan.scanLine mode number line)

/-- The index of the outermost table that is open. -/
def openTable? (scan : Scan) : Option Nat :=
  scan.blocks.reverse.findSome? fun
    | .table index => some index
    | _ => none

/-- The end of the source, where the strict mode wants all tables closed. -/
def finish (mode : Mode) (scan : Scan) : Parsing Scan :=
  match mode, scan.openTable? with
  | .strict, some index => throw (.unclosedTable ((scan.tables[index]?.map (·.name)).getD ""))
  | _, _ => return scan

end Scan

/-- Scans a whole source. -/
def scan (mode : Mode) (source : List Char) : Parsing Scan := do
  Scan.finish mode (← Scan.scanLines mode 1 (Text.lines source) {})

end Source

end Dbml
