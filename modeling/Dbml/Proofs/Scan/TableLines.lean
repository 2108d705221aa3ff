import Mathlib.Data.Bool.AllAny
import Dbml.Proofs.Scan.Lines
import Dbml.Proofs.Scan.StrictStatements
import Dbml.Proofs.Source.Braces
import Dbml.Proofs.Source.Statements
import Dbml.Proofs.Token.Quoted
import Dbml.Proofs.Token.Readable

/-!
# Tables with settings

The settings of a table mean nothing, but the lexer has to get past them to reach the brace that
opens the table.  It does so just if it can read all of their characters.  Otherwise the line counts
up to the first character that it cannot read, and what is left of it is no header: the lenient mode
passes over it, and over the table.

* `TableLine`: the line `Table 'name' [settings] {`;
* `TableLine.statements_readable`, `TableLine.statements_unreadable`: its one statement, which is a
  header or is broken off in the settings;
* `scanLines_columns`: the columns in the lines of a table;
* `TableLine.opens_table_iff`: a table is opened just if its settings can be read, and takes the
  columns in the lines that follow.
-/

namespace Dbml.Source

open Parsing

/-! ### The line -/

/-- The line that begins a table with a quoted name and with settings, in which nothing has to be
escaped. -/
structure TableLine where
  name : List Char
  settings : List Char
  isName : ∀ c ∈ name, c ≠ '\'' ∧ c ≠ '\\'
  isPlain : ∀ c ∈ settings, Lexer.isQuote c = false ∧ c ∉ ['[', ']', '{', '}']

namespace TableLine

variable {line : TableLine}

/-- What is written behind the settings. -/
def closing : List Char := "] \x7b".toList

/-- The line as it is written. -/
def text (line : TableLine) : List Char :=
  "Table ".toList ++ '\'' :: (line.name ++ '\'' :: ' ' :: '[' :: (line.settings ++ closing))

/-- The header of the table. -/
def header (line : TableLine) : TableHeader :=
  ⟨String.ofList line.name, none⟩

/-- The settings have no character that the lexer cannot read. -/
def IsReadable (line : TableLine) : Prop :=
  ∀ c ∈ line.settings, Lexer.isReadable c = true

/-- The tokens of the line in front of its settings. -/
def words (line : TableLine) : List Token :=
  [.ident "Table", .str (String.ofList line.name)]

theorem tokenize_text (line : TableLine) :
    (Lexer.tokenize line.text).1 =
      line.words ++ .leftBracket :: (Lexer.tokenize (line.settings ++ closing)).1 := by
  have hkeyword : ∀ c ∈ "Table".toList, Text.isWordChar c = true := List.all_eq_true.mp (by decide)
  have hstop : ∀ rest : List Char, ∀ c ∈ (' ' :: rest).head?, Text.isWordChar c = false :=
    Text.forall_head?_cons (by decide)
  have hname : ∀ rest, Lexer.next (' ' :: '\'' :: (line.name ++ '\'' :: rest)) =
      (.ok (.str (String.ofList line.name)), rest) := by
    intro rest
    rw [Lexer.next_blank (by decide)]
    exact Lexer.next_quote (by decide) (Lexer.takeQuoted?_plain line.isName rest)
  have hbracket : ∀ rest, Lexer.next (' ' :: '[' :: rest) = (.ok .leftBracket, rest) := by
    intro rest
    rw [Lexer.next_blank (by decide)]
    exact Lexer.next_sign rfl rest
  have htable := Lexer.next_word hkeyword (hstop ('\'' :: (line.name ++ '\'' :: ' ' :: '[' ::
    (line.settings ++ closing)))) (by decide) (by decide)
  have htext : line.text = "Table".toList ++
      ' ' :: '\'' :: (line.name ++ '\'' :: ' ' :: '[' :: (line.settings ++ closing)) := rfl
  rw [htext, Lexer.tokenize_of_next htable (by simp), Lexer.tokenize_of_next (hname _) (by simp),
    Lexer.tokenize_of_next (hbracket _) (by simp)]
  simp [words]

theorem plain_of_isCutFrom {token : Token} (h : Lexer.IsCutFrom line.settings token) :
    token ≠ .leftBracket ∧ token ≠ .rightBracket ∧ isBrace token = false := by
  have hnot : ∀ c ∈ ['[', ']', '{', '}'], c ∉ line.settings :=
    fun c hc hmem => (line.isPlain c hmem).2 hc
  have hopen : token ≠ .leftBrace := h.ne_of_sign (hnot '{' (by decide)) rfl
  have hclose : token ≠ .rightBrace := h.ne_of_sign (hnot '}' (by decide)) rfl
  refine ⟨h.ne_of_sign (hnot '[' (by decide)) rfl, h.ne_of_sign (hnot ']' (by decide)) rfl, ?_⟩
  cases token <;> first | contradiction | rfl

/-! ### Its statement -/

/-- Between its words and its brace, a header has the settings of the line in brackets. -/
theorem ofTokens?_settings (line : TableLine) {tokens : List Token}
    (h : Balanced .leftBracket .rightBracket 0 tokens) :
    TableHeader.ofTokens? (line.words ++ .leftBracket :: (tokens ++ [.rightBracket, .leftBrace])) =
      some line.header := by
  have hgroup : takeGroup? .leftBracket .rightBracket
      (.leftBracket :: (tokens ++ [.rightBracket, .leftBrace])) = some (tokens, [.leftBrace]) :=
    (takeGroup?_eq_some_iff (by decide)).mpr ⟨rfl, h⟩
  have hname : qualifiedName? (.str (String.ofList line.name) :: .leftBracket ::
      (tokens ++ [.rightBracket, .leftBrace])) =
        some ([String.ofList line.name], .leftBracket :: (tokens ++ [.rightBracket, .leftBrace])) :=
    WrittenEndpoint.qualifiedName?_name rfl (by simp)
  have hkeyword : (Token.ident "Table").isKeyword "table" = true := by decide
  rw [words, List.cons_append, TableHeader.ofTokens?, if_pos hkeyword, List.singleton_append, hname]
  simp [takeAlias?, Token.isKeyword, skipSettings?, hgroup, header]

theorem statements_readable (h : line.IsReadable) :
    ∃ tokens, statements (Lexer.tokenize line.text).1 = [tokens] ∧
      TableHeader.ofTokens? tokens = some line.header := by
  have hstop : ∀ c ∈ closing.head?, Text.isWordChar c = false ∧ c ≠ '.' :=
    Text.forall_head?_cons (c := ']') (by decide) " \x7b".toList
  obtain ⟨tokens, hlexed, hcut⟩ := Lexer.tokenize_readable hstop h
  have hplain : ∀ token ∈ tokens, token ≠ .leftBracket ∧ token ≠ .rightBracket ∧
    isBrace token = false :=
    fun token htoken => plain_of_isCutFrom (hcut token htoken)
  have hbalanced : Balanced .leftBracket .rightBracket 0 tokens :=
    balanced_of_not_mem (fun hmem => (hplain _ hmem).1 rfl) (fun hmem => (hplain _ hmem).2.1 rfl)
  have hclosing : (Lexer.tokenize closing).1 = [.rightBracket, .leftBrace, .endOfText] := by
    with_unfolding_all rfl
  -- the brace is the first one of the line, and stands behind the brackets
  have htokens : (Lexer.tokenize line.text).1 =
      (line.words ++ .leftBracket :: (tokens ++ [.rightBracket])) ++ [.leftBrace] ++
        [.endOfText] := by
    rw [tokenize_text, hlexed, hclosing]
    simp
  have hbraces :
      outerBraces 0 (line.words ++ .leftBracket :: (tokens ++ [.rightBracket])) = [] := by
    apply outerBraces_of_no_brace
    intro token htoken
    simp only [words, List.mem_append, List.mem_cons, List.not_mem_nil, or_false] at htoken
    rcases htoken with (rfl | rfl) | rfl | htoken | rfl
    all_goals first | rfl | exact (hplain token htoken).2.2
  have hgroup : openBrackets 0 (.leftBracket :: (tokens ++ [.rightBracket])) = 0 :=
    openBrackets_group ⟨tokens, hbalanced, rfl⟩
  have hdepth : openBrackets 0 (line.words ++ .leftBracket :: (tokens ++ [.rightBracket])) = 0 := by
    rw [openBrackets_append]
    exact hgroup
  have hstatement := statementsAfter_opening hbraces hdepth []
  refine ⟨line.words ++ .leftBracket :: (tokens ++ [.rightBracket, .leftBrace]), ?_,
    line.ofTokens?_settings hbalanced⟩
  rw [htokens, statements, withoutEnd_append, hstatement]
  simp [statementsAfter]

/-- With settings that cannot be read the line is broken off before its brace. -/
theorem statements_unreadable (h : ¬ line.IsReadable) :
    ∃ tokens, statements (Lexer.tokenize line.text).1 = [.ident "Table" :: tokens] ∧
      Token.leftBrace ∉ tokens := by
  obtain ⟨tokens, hlexed, hcut⟩ :=
    Lexer.tokenize_not_readable h (fun c hc => (line.isPlain c hc).1) closing
  have hbraces : ∀ brace, isBrace brace = true → brace ∉ line.words ++ .leftBracket :: tokens := by
    intro brace hbrace hmem
    have hnot : isBrace brace = false := by
      simp only [words, List.mem_append, List.mem_cons, List.not_mem_nil, or_false] at hmem
      rcases hmem with (rfl | rfl) | rfl | htoken
      all_goals first | rfl | exact (plain_of_isCutFrom (hcut brace htoken)).2.2
    rw [hbrace] at hnot
    contradiction
  have htokens : (Lexer.tokenize line.text).1 =
      (line.words ++ .leftBracket :: tokens) ++ [.endOfText] := by
    rw [tokenize_text, hlexed]
    simp
  refine ⟨.str (String.ofList line.name) :: .leftBracket :: tokens, ?_, fun hmem => ?_⟩
  · rw [htokens]
    exact statements_of_no_brace (by simp [words]) (hbraces _ rfl) (hbraces _ rfl)
  · exact hbraces _ rfl (List.mem_cons_of_mem _ hmem)

/-! ### What a scan makes of it -/

variable {scan : Scan}

theorem openTable_ne (scan : Scan) (header : TableHeader) : scan.openTable header ≠ scan := by
  intro hsame
  have hlength := congrArg (·.tables.length) hsame
  simp [Scan.openTable] at hlength

theorem scanLine_readable (hblocks : scan.blocks = []) (h : line.IsReadable) (number : Nat) :
    (scan.scanLine .lenient number line.text).outcome = .ok (scan.openTable line.header) := by
  obtain ⟨tokens, hstatements, hheader⟩ := statements_readable h
  have hopens : tokens.getLast? = some .leftBrace := getLast?_of_header hheader
  have hstatement : ∀ place, scan.statement .lenient place tokens =
      (do report (.tableOpened line.header.name); return scan.openTable line.header) := by
    intro place
    rw [Scan.statement, if_neg (Scan.ne_close_of_opens hopens), Scan.tableHeader?, hblocks]
    simp only [hheader]
  apply result?_eq_some.mp
  rw [Scan.scanLine_lenient number line.text ⟨number, ""⟩, hstatements, Scan.lineStatements,
    hstatement]
  rfl

theorem scanLine_unreadable (hblocks : scan.blocks = []) (h : ¬ line.IsReadable) (number : Nat) :
    (scan.scanLine .lenient number line.text).outcome = .ok scan := by
  obtain ⟨tokens, hstatements, hbrace⟩ := statements_unreadable h
  have hopen : (Token.ident "Table" :: tokens).getLast? ≠ some .leftBrace := by
    intro hlast
    rcases List.mem_cons.mp (List.mem_of_getLast? hlast) with hfirst | hmem
    · contradiction
    · exact hbrace hmem
  have hrelation : relation? (.ident "Table" :: tokens) = none := by
    have hkeyword : ¬ (Token.ident "Table").isKeyword "ref" = true := by decide
    rw [relation?, if_neg hkeyword]
  apply result?_eq_some.mp
  rw [Scan.scanLine_lenient number line.text ⟨number, ""⟩, hstatements, Scan.lineStatements,
    Scan.statement_at_top hblocks (by simp) hopen, Scan.topLevelStatement, hrelation]
  rfl

end TableLine

/-! ### The columns of a table -/

/-- The column that a line in a table states, if it is the only statement of the line and opens no
block. -/
def lineColumn? (line : List Char) : Option Column :=
  match statements (Lexer.tokenize line).1 with
  | [tokens] => if tokens.getLast? = some .leftBrace then none else (column? tokens).map Prod.fst
  | _ => none

namespace Scan

variable {scan : Scan} {index : Nat} {outer : List Block} {table : Table} {column : Column}

theorem scanLine_column {line : List Char} (hblocks : scan.blocks = .table index :: outer)
    (htable : scan.tables[index]? = some table) (hcolumn : lineColumn? line = some column)
    (number : Nat) :
    (scan.scanLine .lenient number line).outcome = .ok (scan.addColumn index table column) := by
  unfold lineColumn? at hcolumn
  split at hcolumn
  · rename_i tokens hstatements
    split at hcolumn
    · contradiction
    · rename_i hopen
      obtain ⟨⟨found, rest⟩, hread, rfl⟩ := Option.map_eq_some_iff.mp hcolumn
      have hclose : tokens ≠ [.rightBrace] := by
        rintro rfl
        contradiction
      apply result?_eq_some.mp
      rw [scanLine_lenient number line ⟨number, ""⟩, hstatements, lineStatements,
        statement_in_table hblocks hclose hopen, tableStatement, hread]
      cases rest with
      | nil => simp only [htable]; rfl
      | cons token rest => simp only [htable]; rfl
  · contradiction

/-- Lines that state columns add them to the table one after the other, with their relations. -/
theorem scanLines_columns {lines : List (List Char)} {columns : List Column}
    (hblocks : scan.blocks = .table index :: outer) (htable : scan.tables[index]? = some table)
    (hcolumns : lines.map lineColumn? = columns.map some) (number : Nat) :
    (scanLines .lenient number lines scan).outcome =
      .ok { scan with
        tables := scan.tables.set index { table with columns := table.columns ++ columns }
        relations := scan.relations ++ columns.filterMap (columnRelation? table.name) } := by
  induction lines generalizing scan table columns number with
  | nil =>
      obtain rfl : columns = [] := by simpa using hcolumns.symm
      obtain ⟨hlt, rfl⟩ := List.getElem?_eq_some_iff.mp htable
      rw [List.filterMap_nil, List.append_nil, List.append_nil]
      have hsame : scan.tables.set index scan.tables[index] = scan.tables :=
        List.set_getElem_self hlt
      exact congrArg (fun tables => Except.ok { scan with tables }) hsame.symm
  | cons line lines ih =>
      cases columns with
      | nil => cases hcolumns
      | cons column columns =>
          obtain ⟨hfirst, hothers⟩ := List.cons.inj hcolumns
          obtain ⟨hlt, -⟩ := List.getElem?_eq_some_iff.mp htable
          have hline := scanLine_column hblocks htable hfirst number
          have hopen : (scan.addColumn index table column).blocks = .table index :: outer := hblocks
          have hnext : (scan.addColumn index table column).tables[index]? =
              some { table with columns := table.columns ++ [column] } := by
            simp [addColumn, hlt]
          have hrelations : (columnRelation? table.name column).toList ++
              columns.filterMap (columnRelation? table.name) =
                (column :: columns).filterMap (columnRelation? table.name) := by
            cases hrelation : columnRelation? table.name column <;> simp [hrelation]
          rw [scanLines, (bind_of_ok hline _).1, ih hopen hnext hothers (number + 1), ← hrelations]
          simp [addColumn]

end Scan

namespace TableLine

variable {scan : Scan} {lines : List (List Char)} {columns : List Column}

/-- **A table with settings is opened just if the settings can be read.**  Then the columns in the
lines that follow are those of the table; otherwise the lenient mode goes on as if the line were not
there. -/
theorem opens_table_iff (line : TableLine) (hblocks : scan.blocks = [])
    (hcolumns : lines.map lineColumn? = columns.map some) (number : Nat) :
    ((scan.scanLine .lenient number line.text).outcome = .ok (scan.openTable line.header) ↔
      line.IsReadable) ∧
      (line.IsReadable → (Scan.scanLines .lenient number (line.text :: lines) scan).outcome =
        .ok { scan with
          tables := scan.tables ++ [{ name := String.ofList line.name, columns }]
          relations := scan.relations ++
            columns.filterMap (Scan.columnRelation? (String.ofList line.name))
          blocks := [.table scan.tables.length] }) ∧
      (¬ line.IsReadable → (scan.scanLine .lenient number line.text).outcome = .ok scan) := by
  refine ⟨⟨fun hopens => ?_, fun h => scanLine_readable hblocks h number⟩, fun h => ?_,
    fun h => scanLine_unreadable hblocks h number⟩
  · by_contra hunreadable
    rw [scanLine_unreadable hblocks hunreadable] at hopens
    exact openTable_ne scan line.header (Except.ok.inj hopens).symm
  · have hopened : (scan.openTable line.header).blocks = [.table scan.tables.length] := by
      simp [Scan.openTable, hblocks]
    have htable : (scan.openTable line.header).tables[scan.tables.length]? =
        some { name := String.ofList line.name } := by
      simp [Scan.openTable, header]
    rw [Scan.scanLines, (bind_of_ok (scanLine_readable hblocks h number) _).1,
      Scan.scanLines_columns hopened htable hcolumns, hopened]
    simp [Scan.openTable]

/-- A table with settings of words, numbers and signs. -/
def plainTable : TableLine where
  name := "order items".toList
  settings := "headercolor: 3498DB, scale: -1.5 (of 2), key: <a.b>".toList
  isName := List.all_iff_forall_prop.mp (by decide)
  isPlain := List.all_iff_forall_prop.mp (by decide)

/-- The lines behind it. -/
def plainLines : List (List Char) :=
  ["  id int [pk]".toList, "  team int [ref: > teams.id] and more".toList]

/-- The columns in these lines. -/
def plainColumns : List Column :=
  [{ name := "id", type := "int", primaryKey := true },
    { name := "team", type := "int",
      reference := some ⟨"teams", "id", some RelationOp.manyToOne.cardinality, none, none⟩ }]

theorem opens_table_iff_of_plainTable :
    plainLines.map lineColumn? = plainColumns.map some ∧
      (Scan.scanLines .lenient 1 (plainTable.text :: plainLines) {}).outcome =
        .ok {
          tables := [{ name := "order items", columns := plainColumns }]
          relations := [{ relation :=
            ⟨⟨"order items", "team"⟩, ⟨"teams", "id"⟩, RelationOp.manyToOne.cardinality, none,
              none⟩ }]
          blocks := [.table 0] } := by
  have hcolumns : plainLines.map lineColumn? = plainColumns.map some := by
    with_unfolding_all rfl
  have hreadable : plainTable.IsReadable := List.all_eq_true.mp (by decide)
  exact ⟨hcolumns, (opens_table_iff plainTable rfl hcolumns 1).2.1 hreadable⟩

/-- A table with a colour. -/
def colouredTable : TableLine where
  name := "n".toList
  settings := "headercolor: #3498DB".toList
  isName := List.all_iff_forall_prop.mp (by decide)
  isPlain := List.all_iff_forall_prop.mp (by decide)

/-- **The mark of a colour cannot be read.**  A table with one is lost, and its column with it,
although nothing in the line is quoted and no comment begins there. -/
theorem colour_loses_table :
    (∀ c ∈ colouredTable.name, Lexer.isQuote c = false) ∧ '\n' ∉ colouredTable.text ∧
      ¬ ['/', '/'] <:+: colouredTable.settings ∧
      (Scan.scanLine .lenient 1 colouredTable.text {}).outcome ≠
        .ok (Scan.openTable {} colouredTable.header) ∧
      (parse .lenient (colouredTable.text ++ "\n  id int\n\x7d".toList)).outcome = .ok {} := by
  have hunreadable : ¬ colouredTable.IsReadable := by
    intro hreadable
    exact absurd (hreadable '#' (by decide)) (by decide)
  have hline : (Scan.scanLine .lenient 1 colouredTable.text {}).outcome = .ok {} :=
    scanLine_unreadable rfl hunreadable 1
  refine ⟨List.all_iff_forall_prop.mp (by decide), by decide, ?_, ?_, ?_⟩
  · intro hslashes
    have hnone : '/' ∉ colouredTable.settings := by decide
    exact hnone (hslashes.subset List.mem_cons_self)
  · rw [hline]
    intro hopens
    exact openTable_ne {} colouredTable.header (Except.ok.inj hopens).symm
  · have hlines : Text.lines (colouredTable.text ++ "\n  id int\n\x7d".toList) =
        [colouredTable.text, "  id int".toList, "\x7d".toList] := by
      decide
    have hothers : (Scan.scanLines .lenient 2 ["  id int".toList, "\x7d".toList] {}).outcome =
        .ok {} := by
      with_unfolding_all rfl
    have hscan : (Source.scan .lenient (colouredTable.text ++ "\n  id int\n\x7d".toList)).outcome =
        .ok {} := by
      have hall : (Scan.scanLines .lenient 1 [colouredTable.text, "  id int".toList,
        "\x7d".toList] {}).outcome =
          .ok {} := by
        rw [Scan.scanLines, (bind_of_ok hline _).1, hothers]
      rw [Source.scan, hlines, (bind_of_ok hall _).1]
      rfl
    rw [(parse_of_ok hscan).1]
    rfl

end TableLine

end Dbml.Source
