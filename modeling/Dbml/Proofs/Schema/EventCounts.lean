import Dbml.Proofs.Linking.Junctions
import Dbml.Proofs.Scan.BlockStack
import Dbml.Proofs.Scan.Replacement
import Dbml.Proofs.Source.Grammar

/-!
# What the events of a parse account for

Every table, relation and column of a parsed schema is either read from the source or made in
linking, and a relation is lost only as a duplicate.  All of this is reported, but for the columns
that are read, so that the sizes of the schema can be told from the events and from the columns of
the source.

* `scannedColumns`: the columns that the statements of a source state, in their order;
* `Accounts`: sizes that differ by just what columns and events say.  It holds for one statement
  (`statement_accounted`) and for each step of linking (`linkJunction_accounts`,
  `linkForeignKey_accounts`, `dropDuplicates_accounts`), and such accounts are added up by
  `Accounts.append`;
* `events_account_for_schema`: the accounts of a whole parse.
-/

namespace Dbml

open Parsing

/-! ### Columns that are scanned -/

namespace Source

namespace Scan

/-- The column that a statement states, if a table is open and the statement neither opens nor
closes a block. -/
def statedColumn? (scan : Scan) (tokens : List Token) : Option Column :=
  if tokens = [.rightBrace] ∨ tokens.getLast? = some .leftBrace then none
  else
    match scan.blocks with
    | .table _ :: _ => (column? tokens).map (·.1)
    | _ => none

/-- The columns that the statements of a line state. -/
def columnsOfStatements (place : Place) : List (List Token) → Scan → List Column
  | [], _ => []
  | tokens :: rest, scan =>
    (scan.statedColumn? tokens).toList ++
      match (scan.statement .lenient place tokens).result? with
      | some next => columnsOfStatements place rest next
      | none => []

/-- The columns that one line states. -/
def columnsOfLine (number : Nat) (line : List Char) (scan : Scan) : List Column :=
  columnsOfStatements ⟨number, String.ofList (Text.trim line)⟩
    (statements (Lexer.tokenize (Text.trim line)).1) scan

/-- The columns that the lines from the given number on state. -/
def columnsOfLines : Nat → List (List Char) → Scan → List Column
  | _, [], _ => []
  | number, line :: rest, scan =>
    scan.columnsOfLine number line ++
      match (scan.scanLine .lenient number line).result? with
      | some next => columnsOfLines (number + 1) rest next
      | none => []

end Scan

/-- The columns that a source states when it is read leniently. -/
def scannedColumns (source : List Char) : List Column :=
  Scan.columnsOfLines 1 (Text.lines source) {}

end Source

/-! ### Accounts -/

/-- How many events have the wording. -/
def reported (message : String) (events : List Event) : Nat :=
  events.countP (·.message = message)

@[simp] theorem reported_nil (message : String) : reported message [] = 0 := rfl

@[simp] theorem reported_cons (message : String) (event : Event) (events : List Event) :
    reported message (event :: events) =
      (if event.message = message then 1 else 0) + reported message events := by
  simp [reported, List.countP_cons, Nat.add_comm]

@[simp] theorem reported_append (message : String) (events more : List Event) :
    reported message (events ++ more) = reported message events + reported message more :=
  List.countP_append

theorem reported_map {α : Type} {event : α → Event} {wording : String}
    (h : ∀ x, (event x).message = wording) (message : String) (l : List α) :
    reported message (l.map event) = if wording = message then l.length else 0 := by
  induction l with
  | nil => simp
  | cons x rest ih =>
      rw [List.map_cons, reported_cons, h x, ih, List.length_cons]
      split <;> omega

/-- How many tables, relations and columns there are. -/
structure Sizes where
  tables : Nat
  relations : Nat
  columns : Nat

/-- The number of columns in all tables. -/
def columnCount (tables : List Table) : Nat :=
  (tables.map (·.columns.length)).sum

/-- The sizes of a schema of these tables and of so many relations. -/
def sizesOf (tables : List Table) (relations : Nat) : Sizes where
  tables := tables.length
  relations := relations
  columns := columnCount tables

/-- The later sizes are the earlier ones with the columns that were stated and with what the events
say was added and dropped. -/
structure Accounts (before : Sizes) (columns : List Column) (events : List Event) (after : Sizes) :
    Prop where
  tables : after.tables =
    before.tables + reported "opening table" events + reported "creating junction table" events
  relations : after.relations + reported "dropping duplicate relation" events =
    before.relations + reported "registering relation" events + columns.countP (·.reference.isSome)
  columns : after.columns =
    before.columns + columns.length + 2 * reported "creating junction table" events +
      reported "adding junction FK column" events + reported "adding missing FK column" events

namespace Accounts

variable {before between after : Sizes} {columns more : List Column} {events later : List Event}

theorem nil (sizes : Sizes) : Accounts sizes [] [] sizes := ⟨rfl, rfl, rfl⟩

theorem append (hfirst : Accounts before columns events between)
    (hsecond : Accounts between more later after) :
    Accounts before (columns ++ more) (events ++ later) after := by
  obtain ⟨htables, hrelations, hcolumns⟩ := hfirst
  obtain ⟨htables', hrelations', hcolumns'⟩ := hsecond
  refine ⟨?_, ?_, ?_⟩
  · simp only [reported_append]
    omega
  · simp only [reported_append, List.countP_append]
    omega
  · simp only [reported_append, List.length_append]
    omega

end Accounts

/-- The events that say what was added and dropped. -/
def countedMessages : List String :=
  ["opening table", "creating junction table", "registering relation",
    "dropping duplicate relation", "adding junction FK column", "adding missing FK column"]

theorem reported_eq_zero {message : String} {events : List Event}
    (hmessage : message ∈ countedMessages)
    (h : ∀ event ∈ events, event.message ∉ countedMessages) : reported message events = 0 := by
  refine List.countP_eq_zero.mpr fun event hevent hsame => ?_
  rw [decide_eq_true_eq] at hsame
  exact h event hevent (hsame ▸ hmessage)

/-- Where nothing is added or dropped, nothing is reported of it. -/
theorem Accounts.of_uncounted {sizes : Sizes} {events : List Event}
    (h : ∀ event ∈ events, event.message ∉ countedMessages) : Accounts sizes [] events sizes := by
  have hzero : ∀ message ∈ countedMessages, reported message events = 0 :=
    fun message hmessage => reported_eq_zero hmessage h
  simp only [countedMessages, List.forall_mem_cons] at hzero
  obtain ⟨hopened, hcreated, hregistered, hdropped, hjoined, hadded, -⟩ := hzero
  refine ⟨?_, ?_, ?_⟩
  · rw [hopened, hcreated]
    rfl
  · rw [hregistered, hdropped]
    rfl
  · rw [hcreated, hjoined, hadded]
    rfl

/-! ### Scanning -/

namespace Source.Scan

variable {scan next : Scan} {place : Place} {tokens : List Token} {index : Nat} {table : Table}

/-- The sizes of what is scanned. -/
def sizes (scan : Scan) : Sizes :=
  sizesOf scan.tables scan.relations.length

/-- If a computation succeeds, then its events and the columns account for the scan that it comes
to. -/
def Accounted (scan : Scan) (columns : List Column) (x : Parsing Scan) : Prop :=
  ∀ next, x.outcome = .ok next → Accounts scan.sizes columns x.events next.sizes

theorem Accounted.of_unchanged {x : Parsing Scan} {events : List Event}
    (houtcome : x.outcome = .ok next)
    (hsizes : next.sizes = scan.sizes) (hevents : x.events = events)
    (huncounted : ∀ event ∈ events, event.message ∉ countedMessages) : Accounted scan [] x := by
  intro other hother
  cases houtcome.symm.trans hother
  rw [hsizes, hevents]
  exact .of_uncounted huncounted

/-- The events of a statement that adds nothing are of other kinds. -/
theorem uncounted_of_singleton (event : Event) (h : event.message ∉ countedMessages) :
    ∀ other ∈ [event], other.message ∉ countedMessages := by
  intro other hother
  rw [List.mem_singleton.mp hother]
  exact h

theorem unrecognized_accounted : Accounted scan [] (scan.unrecognized .lenient place) :=
  have huncounted : "skipping unrecognized statement" ∉ countedMessages := by decide
  .of_unchanged rfl rfl rfl (uncounted_of_singleton _ huncounted)

theorem topLevelStatement_accounted :
    Accounted scan [] (scan.topLevelStatement .lenient place tokens) := by
  unfold topLevelStatement
  cases relation? tokens with
  | none => exact unrecognized_accounted
  | some named =>
      intro next hnext
      cases hnext
      refine ⟨rfl, ?_, rfl⟩
      exact List.length_append

theorem columnCount_set {tables : List Table} (h : tables[index]? = some table) (column : Column) :
    columnCount (tables.set index { table with columns := table.columns ++ [column] }) =
      columnCount tables + 1 := by
  induction tables generalizing index with
  | nil => simp at h
  | cons first rest ih =>
      cases index with
      | zero =>
          obtain rfl : first = table := by simpa using h
          simp only [columnCount, List.set_cons_zero, List.map_cons, List.sum_cons,
            List.length_append, List.length_singleton]
          omega
      | succ index =>
          have hrest := ih (show rest[index]? = some table by simpa using h)
          simp only [columnCount, List.set_cons_succ, List.map_cons, List.sum_cons] at hrest ⊢
          omega

theorem length_columnRelation? (name : String) (column : Column) :
    (columnRelation? name column).toList.length = [column].countP (·.reference.isSome) := by
  unfold columnRelation?
  cases h : column.reference <;> simp [h]

/-- A column that a table gets is the one that is stated, whatever is ignored behind it. -/
theorem addColumn_accounts (htable : scan.tables[index]? = some table) (column : Column)
    {events : List Event} (hevents : ∀ event ∈ events, event.message ∉ countedMessages) :
    Accounts scan.sizes [column] events (scan.addColumn index table column).sizes := by
  have hadded : Accounts scan.sizes [column] [] (scan.addColumn index table column).sizes := by
    refine ⟨List.length_set, ?_, columnCount_set htable column⟩
    rw [← length_columnRelation? table.name column]
    exact List.length_append
  exact hadded.append (.of_uncounted hevents)

theorem tableStatement_accounted (index : Nat) :
    Accounted scan ((column? tokens).map (·.1)).toList
      (scan.tableStatement .lenient place index tokens) := by
  unfold tableStatement
  cases column? tokens with
  | none =>
      dsimp only
      split
      · exact .of_unchanged rfl rfl rfl nofun
      · exact unrecognized_accounted
  | some found =>
      obtain ⟨column, rest⟩ := found
      have htrailing : "ignoring trailing tokens after column" ∉ countedMessages := by decide
      intro next hnext
      cases htable : scan.tables[index]? with
      | none =>
          rw [htable] at hnext
          cases rest <;> cases hnext
      | some table =>
          rw [htable] at hnext
          cases rest with
          | nil =>
              cases hnext
              exact addColumn_accounts htable column nofun
          | cons token rest =>
              cases hnext
              exact addColumn_accounts htable column (uncounted_of_singleton _ htrailing)

theorem projectStatement_accounted :
    Accounted scan [] (scan.projectStatement .lenient place tokens) := by
  unfold projectStatement
  split
  · exact .of_unchanged rfl rfl rfl nofun
  · exact .of_unchanged rfl rfl rfl nofun
  · exact unrecognized_accounted

theorem closeBlock_accounted : Accounted scan [] (scan.closeBlock .lenient place) := by
  unfold closeBlock
  split
  · exact unrecognized_accounted
  · exact .of_unchanged rfl rfl rfl nofun

theorem openBlock_accounted : Accounted scan [] (scan.openBlock place tokens) := by
  have hskipped : "skipping block" ∉ countedMessages := by decide
  unfold openBlock
  split
  · rename_i name hblocks hheader
    refine .of_unchanged rfl ?_ rfl nofun
    cases name <;> rfl
  · exact .of_unchanged rfl rfl rfl (uncounted_of_singleton _ hskipped)

theorem openTable_accounts (header : TableHeader) :
    Accounts scan.sizes [] [.tableOpened header.name] (scan.openTable header).sizes := by
  refine ⟨?_, rfl, ?_⟩
  · exact List.length_append
  · simp [sizes, sizesOf, openTable, columnCount, Event.message]

theorem statement_accounted :
    Accounted scan (scan.statedColumn? tokens).toList (scan.statement .lenient place tokens) := by
  unfold statement
  split
  · rename_i hclose
    rw [statedColumn?, if_pos (.inl hclose)]
    exact closeBlock_accounted
  · rename_i hclose
    cases hheader : scan.tableHeader? tokens with
    | some header =>
        rw [statedColumn?, if_pos (.inr (getLast?_of_header (tableHeader?_eq_some hheader).2))]
        intro next hnext
        cases hnext
        exact openTable_accounts header
    | none =>
        dsimp only
        split
        · rename_i hopen
          rw [statedColumn?, if_pos (.inr hopen)]
          exact openBlock_accounted
        · rename_i hopen
          rw [statedColumn?, if_neg (not_or.mpr ⟨hclose, hopen⟩)]
          cases scan.blocks with
          | nil => exact topLevelStatement_accounted
          | cons block outer =>
              cases block with
              | table index => exact tableStatement_accounted index
              | project => exact projectStatement_accounted
              | skipped => exact .of_unchanged rfl rfl rfl nofun

/-! ### Lines -/

theorem lineStatements_accounted (statements : List (List Token)) :
    Accounted scan (columnsOfStatements place statements scan)
      (lineStatements .lenient place statements scan) := by
  induction statements generalizing scan with
  | nil => exact .of_unchanged rfl rfl rfl nofun
  | cons tokens rest ih =>
      intro next hnext
      obtain ⟨mid, hmid, hrest⟩ := outcome_bind_eq_ok.mp hnext
      rw [columnsOfStatements, result?_eq_some.mpr hmid, lineStatements, (bind_of_ok hmid _).2]
      exact (statement_accounted mid hmid).append (ih next hrest)

theorem scanLine_accounted (number : Nat) (line : List Char) :
    Accounted scan (scan.columnsOfLine number line) (scan.scanLine .lenient number line) := by
  have hfailure : "ignoring rest of line" ∉ countedMessages := by decide
  unfold columnsOfLine
  cases htokens : Lexer.tokenize (Text.trim line) with
  | mk tokens failure =>
      cases failure with
      | none =>
          rw [scanLine_of_lexed htokens]
          exact lineStatements_accounted _
      | some error =>
          intro next hnext
          rw [scanLine_of_failure htokens] at hnext ⊢
          rcases lexFailure_cases .lenient number error scan with ⟨hok, hevents⟩ | ⟨hmode, -⟩
          · rw [(bind_of_ok hok _).1] at hnext
            rw [(bind_of_ok hok _).2, hevents]
            have hline := lineStatements_accounted _ next hnext
            exact (Accounts.of_uncounted
              (uncounted_of_singleton (.restOfLineIgnored number error) hfailure)).append hline
          · contradiction

theorem scanLines_accounted (number : Nat) (lines : List (List Char)) :
    Accounted scan (columnsOfLines number lines scan) (scanLines .lenient number lines scan) := by
  induction lines generalizing number scan with
  | nil => exact .of_unchanged rfl rfl rfl nofun
  | cons line rest ih =>
      intro next hnext
      obtain ⟨mid, hmid, hrest⟩ := outcome_bind_eq_ok.mp hnext
      rw [columnsOfLines, result?_eq_some.mpr hmid, scanLines, (bind_of_ok hmid _).2]
      exact (scanLine_accounted number line mid hmid).append (ih (number + 1) next hrest)

/-- A scan accounts for the columns of its source. -/
theorem scan_accounts {source : List Char} (h : (Source.scan .lenient source).outcome = .ok scan) :
    Accounts ⟨0, 0, 0⟩ (scannedColumns source) (Source.scan .lenient source).events scan.sizes := by
  obtain ⟨hlines, hevents⟩ := scan_eq_ok h
  rw [hevents]
  exact scanLines_accounted 1 (Text.lines source) scan hlines

end Source.Scan

/-! ### Linking -/

namespace Linking

variable {schema : Schema} {name : String} {table : Table} {relations : Nat}

/-- A change of the first table of a name that adds columns to it adds as many to the schema. -/
theorem columnCount_updateTable {f : Table → Table} {added : Nat}
    (htable : schema.table? name = some table)
    (hf : (f table).columns.length = table.columns.length + added) :
    columnCount (schema.updateTable name f).tables = columnCount schema.tables + added := by
  have hcount : ∀ tables : List Table, tables.find? (·.name = name) = some table →
      columnCount (updateFirst (·.name = name) f tables) = columnCount tables + added := by
    intro tables hfound
    induction tables with
    | nil => contradiction
    | cons first rest ih =>
        by_cases hfirst : first.name = name
        · obtain rfl : first = table := by simpa [hfirst] using hfound
          simp only [updateFirst, hfirst, decide_true, if_true, columnCount, List.map_cons,
            List.sum_cons, hf]
          omega
        · have hrest := ih (by simpa [hfirst] using hfound)
          simp only [columnCount] at hrest
          simp only [updateFirst, hfirst, decide_false, Bool.false_eq_true, if_false, columnCount,
            List.map_cons, List.sum_cons, hrest]
          omega
  exact hcount schema.tables htable

/-- A table that changes and gets as many columns as are reported is accounted for. -/
theorem updateTable_accounts {f : Table → Table} {added : List Column} {event : Column → Event}
    (htable : schema.table? name = some table)
    (hf : (f table).columns.length = table.columns.length + added.length)
    (hevent : (∀ column, (event column).message = "adding junction FK column") ∨
      ∀ column, (event column).message = "adding missing FK column") :
    Accounts (sizesOf schema.tables relations) [] (added.map event)
      (sizesOf (schema.updateTable name f).tables relations) := by
  have htables : (schema.updateTable name f).tables.length = schema.tables.length :=
    length_updateFirst
  have hcolumns := columnCount_updateTable htable hf
  rcases hevent with hevent | hevent <;> have hreported := reported_map hevent <;>
    refine ⟨?_, ?_, ?_⟩ <;> simp [hreported, sizesOf, htables, hcolumns]

theorem events_forM (columns : List Column) (event : Column → Event) :
    (columns.forM fun column => Traced.report (event column)).events = columns.map event := by
  induction columns with
  | nil => rfl
  | cons column rest ih => exact congrArg (event column :: ·) ih

theorem linkJunction_of_none {named : NamedRelation}
    (htable : schema.table? (junctionName named) = none) :
    linkJunction schema named =
      ⟨[.junctionTableCreated (junctionName named)],
        schema.addTable ⟨junctionName named, none,
          [named.relation.source, named.relation.target].map
            (junctionColumn schema named.relation)⟩⟩ := by
  unfold linkJunction
  simp only [htable]
  rfl

/-- The columns that a junction table lacks are added with a report. -/
theorem events_linkJunction {named : NamedRelation}
    (htable : schema.table? (junctionName named) = some table) :
    (linkJunction schema named).events =
      (missingColumns schema named.relation table).map
        fun column => .junctionColumnAdded (junctionName named) column.name := by
  unfold linkJunction
  simp only [htable]
  rw [Traced.events_bind, events_forM]
  exact List.append_nil _

/-- A junction table is created with two columns, or gets those that it lacks. -/
theorem linkJunction_accounts (schema : Schema) (named : NamedRelation) (relations : Nat) :
    Accounts (sizesOf schema.tables relations) [] (linkJunction schema named).events
      (sizesOf (linkJunction schema named).value.tables relations) := by
  cases htable : schema.table? (junctionName named) with
  | none =>
      rw [linkJunction_of_none htable]
      refine ⟨List.length_append, rfl, ?_⟩
      simp [sizesOf, columnCount, Schema.addTable, Event.message]
  | some table =>
      rw [events_linkJunction htable, linkJunction_value, Schema.withTable_of_table? htable]
      refine updateTable_accounts htable ?_ (.inl fun _ => rfl)
      simp [joinTable]

/-- The column that a relation adds to the table of its source, if it does, is added with a
report. -/
theorem events_linkForeignKey {relation : Relation}
    (htable : schema.table? relation.source.table = some table) :
    (linkForeignKey schema relation).events =
      (if (table.column? relation.source.column).isSome then []
        else [foreignKey schema relation]).map
        fun column => .foreignKeyAdded relation.source.table column.name := by
  unfold linkForeignKey
  cases hcolumn : table.column? relation.source.column with
  | none =>
      simp only [htable, hcolumn]
      rfl
  | some column =>
      simp only [htable, hcolumn]
      rfl

theorem linkForeignKey_accounts (schema : Schema) (relation : Relation) (relations : Nat) :
    Accounts (sizesOf schema.tables relations) [] (linkForeignKey schema relation).events
      (sizesOf (linkForeignKey schema relation).value.tables relations) := by
  cases htable : schema.table? relation.source.table with
  | none =>
      have hnothing : linkForeignKey schema relation = ⟨[], schema⟩ := by
        unfold linkForeignKey
        simp only [htable]
        rfl
      rw [hnothing]
      exact .nil _
  | some table =>
      rw [events_linkForeignKey htable, linkForeignKey_value]
      refine updateTable_accounts htable ?_ (.inr fun _ => rfl)
      unfold keyTable
      cases table.column? relation.source.column with
      | none => simp
      | some column => simp [Table.updateColumn]

theorem linkEach_accounts {α : Type} {step : Schema → α → Traced Schema}
    (hstep : ∀ schema x, Accounts (sizesOf schema.tables relations) [] (step schema x).events
      (sizesOf (step schema x).value.tables relations)) (schema : Schema) (xs : List α) :
    Accounts (sizesOf schema.tables relations) [] (linkEach step schema xs).events
      (sizesOf (linkEach step schema xs).value.tables relations) := by
  induction xs generalizing schema with
  | nil => exact .nil _
  | cons x rest ih => exact (hstep schema x).append (ih (step schema x).value)

theorem dropDuplicates_accounts (tables : List Table) (kept rest : List Relation) :
    Accounts (sizesOf tables (kept.length + rest.length)) [] (dropDuplicates kept rest).events
      (sizesOf tables (dropDuplicates kept rest).value.length) := by
  induction rest generalizing kept with
  | nil => exact .nil _
  | cons relation rest ih =>
      rw [dropDuplicates]
      split
      · have hdropped : Accounts (sizesOf tables (kept.length + (rest.length + 1))) []
            [.duplicateRelationDropped relation.source.table relation.target.table]
            (sizesOf tables (kept.length + rest.length)) := ⟨rfl, rfl, rfl⟩
        exact hdropped.append (ih kept)
      · have hrest := ih (kept ++ [relation])
        rwa [List.length_append, Nat.add_assoc, Nat.add_comm [relation].length] at hrest

/-- Linking accounts for what it adds and drops. -/
theorem link_accounts (schema : Schema) (stated : List NamedRelation) :
    Accounts (sizesOf schema.tables stated.length) [] (link schema stated).events
      (sizesOf (link schema stated).value.tables (link schema stated).value.relations.length) := by
  have hresolved :
      sizesOf (resolvedSchema schema).tables stated.length =
        sizesOf schema.tables stated.length := by
    simp [sizesOf, resolvedSchema, resolveTables, columnCount, Function.comp_def]
  have hjoined := linkEach_accounts (fun schema named =>
    linkJunction_accounts schema named stated.length)
    (resolvedSchema schema) (junctionRelations schema stated)
  have hkeyed := linkEach_accounts (fun schema relation =>
    linkForeignKey_accounts schema relation stated.length)
    (joinedSchema schema stated) (keyRelations schema stated)
  have hkept := dropDuplicates_accounts (keyedSchema schema stated).tables []
    ((resolvedRelations schema stated).map (·.relation))
  rw [List.length_nil, Nat.zero_add, List.length_map, resolvedRelations, List.length_map] at hkept
  rw [hresolved] at hjoined
  exact hjoined.append (hkeyed.append (hkept.append (.nil _)))

end Linking

/-- **The events account for the schema.**  The tables of a source that is read leniently are those
that were opened and the junction tables that were created; the relations are those that were
registered or stated by a column, without the duplicates that were dropped; and the columns are
those of the source, two for each junction table that was created, and those that were added to
tables that lacked them. -/
theorem events_account_for_schema (source : List Char) :
    ∃ schema, (parse .lenient source).outcome = .ok schema ∧
      schema.tables.length = reported "opening table" (parse .lenient source).events +
        reported "creating junction table" (parse .lenient source).events ∧
      schema.relations.length +
        reported "dropping duplicate relation" (parse .lenient source).events =
        reported "registering relation" (parse .lenient source).events +
          (Source.scannedColumns source).countP (·.reference.isSome) ∧
      columnCount schema.tables = (Source.scannedColumns source).length +
        2 * reported "creating junction table" (parse .lenient source).events +
        reported "adding junction FK column" (parse .lenient source).events +
        reported "adding missing FK column" (parse .lenient source).events := by
  obtain ⟨scan, hscan⟩ := Source.Scan.scan_lenient_isOk source
  obtain ⟨houtcome, hevents⟩ := parse_of_ok hscan
  have haccounts := (Source.Scan.scan_accounts hscan).append
    (Linking.link_accounts scan.schema scan.relations)
  rw [← hevents, List.append_nil] at haccounts
  obtain ⟨htables, hrelations, hcolumns⟩ := haccounts
  refine ⟨_, houtcome, ?_, ?_, ?_⟩
  · simpa [sizesOf] using htables
  · simpa [sizesOf] using hrelations
  · simpa [sizesOf] using hcolumns

end Dbml
