import Mathlib.Data.List.Basic
import Dbml.Proofs.Linking.Identity
import Dbml.Proofs.Scan.Step
import Dbml.Proofs.Source.WrittenLines

/-!
# Written tables are read back

Parsing the source that `writeTables` writes gives the tables back, in either mode, and the
relations that their columns state.

## Strategy

* `Reads`: lines take a scan to another one, whatever lines follow.  The lines of a table take a
  scan without open blocks to the one that has the table besides (`reads_table`), by induction on
  the columns; so all lines do (`reads_tables`), by induction on the tables.
* Tables that can be written are linked (`isLinked_of_isWritable`): no name in them is an alias, and
  each relation stands in the settings of its own column.
-/

namespace Dbml.Source

open Parsing

namespace Scan

variable {mode : Mode} {scan mid next : Scan}

/-! ### Reading lines -/

/-- The lines take a scan to another one, whatever lines follow. -/
def Reads (mode : Mode) (lines : List (List Char)) (scan next : Scan) : Prop :=
  ∀ number rest, (scanLines mode number (lines ++ rest) scan).outcome =
    (scanLines mode (number + lines.length) rest next).outcome

theorem Reads.nil (mode : Mode) (scan : Scan) : Reads mode [] scan scan := fun _ _ => rfl

theorem Reads.append {first second : List (List Char)} (hfirst : Reads mode first scan mid)
    (hsecond : Reads mode second mid next) : Reads mode (first ++ second) scan next := by
  intro number rest
  calc (scanLines mode number (first ++ second ++ rest) scan).outcome
      = (scanLines mode (number + first.length) (second ++ rest) mid).outcome := by
        rw [List.append_assoc, hfirst]
    _ = (scanLines mode (number + first.length + second.length) rest next).outcome :=
        hsecond _ _
    _ = (scanLines mode (number + (first ++ second).length) rest next).outcome := by
        rw [List.length_append, Nat.add_assoc]

theorem scanLine_write {tokens : List Token} (hwritable : ∀ token ∈ tokens, token.isWritable = true)
    (number : Nat) (scan : Scan) :
    scan.scanLine mode number (Token.write tokens) =
      lineStatements mode ⟨number, String.ofList (Token.write tokens)⟩
        (statements (tokens ++ [.endOfText])) scan := by
  have htrim := trim_write hwritable
  have hlex : Lexer.tokenize (Text.trim (Token.write tokens)) = (tokens ++ [.endOfText], none) := by
    rw [htrim, Lexer.tokenize_write hwritable]
  rw [scanLine_of_lexed hlex, htrim]

theorem reads_statement {tokens : List Token}
    (hwritable : ∀ token ∈ tokens, token.isWritable = true)
    (hone : statements (tokens ++ [.endOfText]) = [tokens])
    (hstep : ∀ place, (scan.statement mode place tokens).outcome = .ok next) :
    Reads mode [Token.write tokens] scan next := by
  intro number rest
  have hline : (scan.scanLine mode number (Token.write tokens)).outcome = .ok next := by
    rw [scanLine_write hwritable, hone]
    exact (bind_of_ok (hstep _) _).1
  exact (bind_of_ok hline _).1

/-- The empty line behind the last line feed says nothing. -/
theorem scanLines_empty (number : Nat) (scan : Scan) :
    (scanLines mode number [[]] scan).outcome = .ok scan := by
  have hwrite : scan.scanLine mode number (Token.write []) = pure scan :=
    scanLine_write (List.forall_mem_nil _) number scan
  have hline : (scan.scanLine mode number []).outcome = .ok scan := congrArg Parsing.outcome hwrite
  exact (bind_of_ok hline _).1

/-! ### One table -/

/-- The scan with the block of a table open, whose columns so far are those of `table`. -/
def within (tables : List Table) (table : Table) (relations : List NamedRelation) : Scan where
  tables := tables ++ [table]
  relations := relations
  blocks := [.table tables.length]

/-- The scan outside of all blocks. -/
def outside (tables : List Table) (relations : List NamedRelation) : Scan where
  tables := tables
  relations := relations

/-- The relations that the columns of a table state. -/
def columnRelations (table : Table) : List NamedRelation :=
  table.columns.filterMap (columnRelation? table.name)

variable {tables : List Table} {table : Table} {relations : List NamedRelation}

theorem statement_headerTokens (place : Place) :
    ((outside tables relations).statement mode place (headerTokens table)).outcome =
      .ok (within tables { table with columns := [] } relations) := by
  have hbrace : headerTokens table ≠ [.rightBrace] := by
    unfold headerTokens
    split <;> simp
  have hheader : (outside tables relations).tableHeader? (headerTokens table) =
      some ⟨table.name, table.aliasName⟩ := ofTokens?_headerTokens table
  rw [statement, if_neg hbrace, hheader]
  rfl

theorem addColumn_within {column : Column} :
    (within tables table relations).addColumn tables.length table column =
      within tables { table with columns := table.columns ++ [column] }
        (relations ++ (columnRelation? table.name column).toList) := by
  simp [within, addColumn, List.set_append_right]

theorem statement_columnTokens {column : Column} (h : IsWritableColumn column) (place : Place) :
    ((within tables table relations).statement mode place (columnTokens column)).outcome =
      .ok (within tables { table with columns := table.columns ++ [column] }
        (relations ++ (columnRelation? table.name column).toList)) := by
  have hbrace : columnTokens column ≠ [.rightBrace] := by simp [columnTokens]
  -- a quoted name is no keyword, so the line is no header
  have hheader : (within tables table relations).tableHeader? (columnTokens column) = none := rfl
  have hlast : (columnTokens column).getLast? ≠ some .leftBrace := fun hlast =>
    brace_not_mem_columnTokens h (.inl rfl) (List.mem_of_getLast? hlast)
  have htable : (within tables table relations).tables[tables.length]? = some table := by
    simp [within]
  rw [← addColumn_within, statement, if_neg hbrace, hheader, if_neg hlast]
  show ((within tables table relations).tableStatement mode place tables.length
    (columnTokens column)).outcome = _
  simp only [tableStatement, column?_columnTokens h, htable]
  rfl

theorem statement_rightBrace (place : Place) :
    ((within tables table relations).statement mode place [.rightBrace]).outcome =
      .ok (outside (tables ++ [table]) relations) := rfl

/-- The lines of columns add them to the open table, with the relations that they state. -/
theorem reads_columns {columns : List Column} (h : ∀ column ∈ columns, IsWritableColumn column) :
    Reads mode ((columns.map columnTokens).map Token.write) (within tables table relations)
      (within tables { table with columns := table.columns ++ columns }
        (relations ++ columns.filterMap (columnRelation? table.name))) := by
  induction columns generalizing table relations with
  | nil =>
      rw [List.append_nil, List.filterMap_nil, List.append_nil]
      exact .nil mode _
  | cons column rest ih =>
      have hcolumn := h column List.mem_cons_self
      have hfirst : Reads mode [Token.write (columnTokens column)] (within tables table relations)
          (within tables { table with columns := table.columns ++ [column] }
            (relations ++ (columnRelation? table.name column).toList)) :=
        reads_statement (fun _ => isWritable_of_mem_columnTokens hcolumn)
          (statements_columnTokens hcolumn) (statement_columnTokens hcolumn)
      have hall := hfirst.append (ih fun c hc => h c (List.mem_cons_of_mem _ hc))
      have hrelations : (columnRelation? table.name column).toList ++
          rest.filterMap (columnRelation? table.name) =
            (column :: rest).filterMap (columnRelation? table.name) := by
        cases hone : columnRelation? table.name column <;> simp [hone]
      rw [List.append_assoc, List.append_assoc, hrelations] at hall
      exact hall

theorem reads_table (h : ∀ column ∈ table.columns, IsWritableColumn column) :
    Reads mode ((tableLines table).map Token.write) (outside tables relations)
      (outside (tables ++ [table]) (relations ++ columnRelations table)) := by
  have hheader : Reads mode [Token.write (headerTokens table)] (outside tables relations)
      (within tables { table with columns := [] } relations) :=
    reads_statement (fun _ => isWritable_of_mem_headerTokens) (statements_headerTokens table)
      statement_headerTokens
  have hcolumns : Reads mode ((table.columns.map columnTokens).map Token.write)
      (within tables { table with columns := [] } relations)
      (within tables table (relations ++ columnRelations table)) := reads_columns h
  have hclose : Reads mode [Token.write [.rightBrace]]
      (within tables table (relations ++ columnRelations table))
      (outside (tables ++ [table]) (relations ++ columnRelations table)) :=
    reads_statement (by simp [Token.isWritable]) rfl statement_rightBrace
  have hlines : (tableLines table).map Token.write = [Token.write (headerTokens table)] ++
      ((table.columns.map columnTokens).map Token.write ++ [Token.write [.rightBrace]]) := by
    simp [tableLines]
  rw [hlines]
  exact hheader.append (hcolumns.append hclose)

/-! ### All tables -/

/-- The lines of several tables add them all, with the relations that they state. -/
theorem reads_tables {added : List Table}
    (h : ∀ table ∈ added, ∀ column ∈ table.columns, IsWritableColumn column) :
    Reads mode ((added.flatMap tableLines).map Token.write) (outside tables relations)
      (outside (tables ++ added) (relations ++ added.flatMap columnRelations)) := by
  induction added generalizing tables relations with
  | nil =>
      rw [List.append_nil, List.flatMap_nil, List.flatMap_nil, List.append_nil]
      exact .nil mode _
  | cons table rest ih =>
      have htable : Reads mode ((tableLines table).map Token.write) (outside tables relations)
          (outside (tables ++ [table]) (relations ++ columnRelations table)) :=
        reads_table (h table List.mem_cons_self)
      have hall := htable.append (ih fun t ht => h t (List.mem_cons_of_mem _ ht))
      rw [← List.map_append, List.append_assoc, List.append_assoc] at hall
      exact hall

theorem not_mem_of_mem_writtenLines (h : ∀ table ∈ tables, ∀ column ∈ table.columns,
    IsWritableColumn column) {line : List Char}
    (hline : line ∈ (tables.flatMap tableLines).map Token.write) : '\n' ∉ line := by
  obtain ⟨tokens, htokens, rfl⟩ := List.mem_map.mp hline
  obtain ⟨table, htable, hmem⟩ := List.mem_flatMap.mp htokens
  refine Token.not_mem_writeAfter ?_
  simp only [tableLines, List.mem_cons, List.mem_append, List.mem_map, List.not_mem_nil,
    or_false] at hmem
  rcases hmem with rfl | ⟨column, hcolumn, rfl⟩ | rfl
  · exact fun _ => isWritable_of_mem_headerTokens
  · exact fun _ => isWritable_of_mem_columnTokens (h table htable column hcolumn)
  · simp [Token.isWritable]

/-- Scanning what is written comes to the tables and the relations that they state. -/
theorem scan_writeTables (h : ∀ table ∈ tables, ∀ column ∈ table.columns,
    IsWritableColumn column) :
    (Source.scan mode (writeTables tables)).outcome =
      .ok (outside tables (tables.flatMap columnRelations)) := by
  have hlines : Text.lines (writeTables tables) =
      (tables.flatMap tableLines).map Token.write ++ [[]] :=
    Text.lines_flatMap fun line hline => not_mem_of_mem_writtenLines h hline
  have hread : Reads mode ((tables.flatMap tableLines).map Token.write) (outside [] [])
      (outside tables (tables.flatMap columnRelations)) := reads_tables h
  have hscanned : (scanLines mode 1 (Text.lines (writeTables tables)) {}).outcome =
      .ok (outside tables (tables.flatMap columnRelations)) := by
    rw [hlines]
    exact (hread 1 [[]]).trans (scanLines_empty _ _)
  -- no table is open at the end, so that the strict mode has no objection
  refine (bind_of_ok hscanned _).1.trans ?_
  cases mode <;> rfl

end Scan

/-! ### What the tables state -/

/-- The relations that a table states, one for each column that refers to another. -/
def statedRelations (table : Table) : List Relation :=
  table.foreignKeys.map fun (column, r) =>
    { source := ⟨table.name, column.name⟩
      target := ⟨r.table, r.column⟩
      cardinality := r.cardinality.getD .manyToOne }

/-- Tables for which `writeTables` can be undone.  Names are distinct but else arbitrary, and so are
aliases, as long as no reference is to one. -/
structure IsWritable (tables : List Table) : Prop where
  tableNames : (tables.map (·.name)).Nodup
  columnNames : ∀ table ∈ tables, (table.columns.map (·.name)).Nodup
  aliases : ∀ table ∈ tables, ∀ column ∈ table.columns, ∀ r ∈ column.reference,
    ∀ other ∈ tables, other.aliasName ≠ some r.table
  columns : ∀ table ∈ tables, ∀ column ∈ table.columns, IsWritableColumn column

variable {tables : List Table} {table : Table} {relation : Relation}

theorem mem_statedRelations :
    relation ∈ statedRelations table ↔ ∃ column ∈ table.columns, ∃ r ∈ column.reference,
      relation = { source := ⟨table.name, column.name⟩, target := ⟨r.table, r.column⟩,
                   cardinality := r.cardinality.getD .manyToOne } := by
  simp only [statedRelations, Table.foreignKeys, List.mem_map, List.mem_filterMap, Prod.exists,
    Option.map_eq_some_iff, Prod.mk.injEq]
  constructor
  · rintro ⟨column, r, ⟨other, hother, s, hs, rfl, rfl⟩, rfl⟩
    exact ⟨other, hother, s, hs, rfl⟩
  · rintro ⟨column, hcolumn, r, hr, rfl⟩
    exact ⟨column, r, ⟨column, hcolumn, r, hr, rfl, rfl⟩, rfl⟩

theorem columnRelations_relation (h : ∀ column ∈ table.columns, IsWritableColumn column) :
    (Scan.columnRelations table).map (·.relation) = statedRelations table := by
  simp only [Scan.columnRelations, statedRelations, Table.foreignKeys, List.map_filterMap]
  refine List.filterMap_congr fun column hcolumn => ?_
  cases hreference : column.reference with
  | none => simp [Scan.columnRelation?, hreference]
  | some r =>
      have hr := (h column hcolumn).reference r hreference
      simp [Scan.columnRelation?, hreference, hr.onUpdate, hr.onDelete]

/-- Each relation stands in the settings of its own column, so no two have the same source. -/
theorem pairwise_statedRelations (h : IsWritable tables) :
    (tables.flatMap statedRelations).Pairwise fun a b => a.sameEndpoints b = false := by
  have hsource : ∀ a b : Relation, a.source ≠ b.source → a.sameEndpoints b = false := by
    intro a b hne
    simp [Relation.sameEndpoints, hne]
  refine List.pairwise_flatMap.mpr ⟨fun table htable => ?_, ?_⟩
  · have hcolumns := List.pairwise_map.mp (h.columnNames table htable)
    refine List.pairwise_map.mpr (List.pairwise_filterMap.mpr (hcolumns.imp fun {a b} hne => ?_))
    intro first hfirst second hsecond
    obtain ⟨r, -, rfl⟩ := Option.map_eq_some_iff.mp hfirst
    obtain ⟨s, -, rfl⟩ := Option.map_eq_some_iff.mp hsecond
    exact hsource _ _ fun heq => hne (congrArg Endpoint.column heq)
  · have htables := List.pairwise_map.mp h.tableNames
    refine htables.imp fun {a b} hne => ?_
    intro first hfirst second hsecond
    obtain ⟨column, -, r, -, rfl⟩ := mem_statedRelations.mp hfirst
    obtain ⟨other, -, s, -, rfl⟩ := mem_statedRelations.mp hsecond
    exact hsource _ _ fun heq => hne (congrArg Endpoint.table heq)

theorem isLinked_of_isWritable (h : IsWritable tables) :
    Linking.IsLinked { tables } (tables.flatMap statedRelations) where
  references table htable column hcolumn r hr :=
    Linking.resolveName_of_no_alias (h.aliases table htable column hcolumn r hr)
  source relation hrelation := by
    obtain ⟨table, htable, hstated⟩ := List.mem_flatMap.mp hrelation
    obtain ⟨column, -, r, -, rfl⟩ := mem_statedRelations.mp hstated
    exact Linking.resolveName_of_any (List.any_eq_true.mpr ⟨table, htable, by simp⟩)
  target relation hrelation := by
    obtain ⟨table, htable, hstated⟩ := List.mem_flatMap.mp hrelation
    obtain ⟨column, hcolumn, r, hr, rfl⟩ := mem_statedRelations.mp hstated
    exact Linking.resolveName_of_no_alias (h.aliases table htable column hcolumn r hr)
  noJunction relation hrelation := by
    obtain ⟨table, htable, hstated⟩ := List.mem_flatMap.mp hrelation
    obtain ⟨column, hcolumn, r, hr, rfl⟩ := mem_statedRelations.mp hstated
    obtain ⟨c, hc, hmany⟩ := ((h.columns table htable column hcolumn).reference r hr).cardinality
    simpa [Relation.isManyToMany, hc] using hmany
  keys relation hrelation := by
    obtain ⟨table, htable, hstated⟩ := List.mem_flatMap.mp hrelation
    obtain ⟨column, hcolumn, r, hr, rfl⟩ := mem_statedRelations.mp hstated
    -- names are distinct, so the column that is found is the one that states the relation
    have htableFound : tables.find? (·.name = table.name) = some table :=
      find?_eq_some_of_nodup h.tableNames htable
    have hcolumnFound : table.columns.find? (·.name = column.name) = some column :=
      find?_eq_some_of_nodup (h.columnNames table htable) hcolumn
    exact Option.isSome_iff_exists.mpr ⟨r, Schema.reference?_eq_some.mpr
      ⟨table, column, htableFound, hcolumnFound, hr⟩⟩
  distinct := pairwise_statedRelations h

/-- **The round trip.**  In either mode, parsing what is written of tables gives just these tables,
without settings of a project, and the relations that the tables state, in their order. -/
theorem parse_writeTables (mode : Mode) {tables : List Table} (h : IsWritable tables) :
    (parse mode (writeTables tables)).outcome =
      .ok { tables, relations := tables.flatMap statedRelations, metadata := none } := by
  have hrelations : (tables.flatMap Scan.columnRelations).map (·.relation) =
      tables.flatMap statedRelations := by
    rw [List.map_flatMap]
    exact List.flatMap_congr fun table htable => columnRelations_relation (h.columns table htable)
  have hlinked : Linking.IsLinked { tables }
      ((tables.flatMap Scan.columnRelations).map (·.relation)) := by
    rw [hrelations]
    exact isLinked_of_isWritable h
  calc (parse mode (writeTables tables)).outcome
      = .ok (Linking.link { tables } (tables.flatMap Scan.columnRelations)).value :=
        (parse_of_ok (Scan.scan_writeTables h.columns)).1
    _ = .ok { tables, relations := (tables.flatMap Scan.columnRelations).map (·.relation) } := by
        rw [Linking.link_of_isLinked hlinked]
    _ = .ok { tables, relations := tables.flatMap statedRelations, metadata := none } := by
        rw [hrelations]

/-- Two tables, the second of which refers to the first, with texts that need escapes and an alias
that no reference uses. -/
def writtenExample : List Table :=
  [{ name := "user's"
     aliasName := some "U"
     columns :=
      [{ name := "id", type := "int", primaryKey := true, increment := true },
       { name := "say", type := "var\nchar", nullable := some false, note := some "a \\ b"
         default := some (.text "it's // no comment") }] },
   { name := "posts"
     columns :=
      [{ name := "user", type := "int", unique := true, nullable := some true
         default := some (.number (.int (-5)))
         reference := some ⟨"user's", "id", some .manyToOne, none, none⟩ }] }]

/-- The two tables are read back with their one relation. -/
theorem parse_writeTables_of_two_tables :
    IsWritable writtenExample ∧
      ∀ mode, (parse mode (writeTables writtenExample)).outcome =
        .ok
          { tables := writtenExample
            relations := [⟨⟨"posts", "user"⟩, ⟨"user's", "id"⟩, .manyToOne, none, none⟩]
            metadata := none } := by
  have hwritable : IsWritable writtenExample := by
    refine ⟨by decide, by decide, by simp [writtenExample], fun table htable column hcolumn => ?_⟩
    simp only [writtenExample, List.mem_cons, List.not_mem_nil, or_false] at htable
    rcases htable with rfl | rfl <;>
      simp only [List.mem_cons, List.not_mem_nil, or_false] at hcolumn
    · rcases hcolumn with rfl | rfl
      · exact ⟨by simp, by simp, by simp⟩
      · exact ⟨by simp, by simp [IsWritableDefault], by simp⟩
    · obtain rfl := hcolumn
      refine ⟨by simp, ?_, ?_⟩
      · rintro value ⟨⟩
        exact ⟨by decide, by decide⟩
      · rintro r ⟨⟩
        exact ⟨⟨_, rfl, rfl⟩, rfl, rfl⟩
  exact ⟨hwritable, fun mode => parse_writeTables mode hwritable⟩

end Dbml.Source
