import Dbml.Proofs.Scan.BlockStack
import Dbml.Proofs.Source.Grammar

/-!
# What the strict mode accepts

Outside of braces a statement is a column or a note in a table, and a relation outside of all
blocks.  The strict mode refuses a column with tokens behind its settings.  Of what it accepts, it
drops tokens in two cases: the settings of a column that are not closed, and what stands behind a
relation and its settings.

* `statement_opens`: what ends in an opening brace opens a block;
* `tableStatement_strict`, `topLevelStatement_strict`: what is accepted and what is refused
  otherwise, by what is read from the tokens;
* `strict_statement_forms`: the same by the grammar of statements.
-/

namespace Dbml.Source.Scan

open Parsing

variable {mode : Mode} {scan : Scan} {place : Place} {tokens : List Token} {index : Nat}
  {table : Table}
  {outer : List Block}

/-! ### Braces -/

theorem statement_opens (mode : Mode) (place : Place) (scan : Scan)
    (hopen : tokens.getLast? = some .leftBrace) :
    ∃ next, (scan.statement mode place tokens).outcome = .ok next ∧
      (next.tables.length ≠ scan.tables.length ∨ next.blocks.length ≠ scan.blocks.length) := by
  rw [statement, if_neg (ne_close_of_opens hopen)]
  cases scan.tableHeader? tokens with
  | some header =>
      refine ⟨scan.openTable header, rfl, .inl ?_⟩
      simp [openTable]
  | none =>
      simp only [if_pos hopen]
      unfold openBlock
      split
      · rename_i name hblocks hheader
        refine ⟨scan.openProject name, rfl, .inr ?_⟩
        simp [openProject_blocks]
      · refine ⟨_, rfl, .inr ?_⟩
        simp

theorem tableHeader?_eq_none (hopen : tokens.getLast? ≠ some .leftBrace) :
    scan.tableHeader? tokens = none := by
  rw [Option.eq_none_iff_forall_ne_some]
  intro header hheader
  exact hopen (getLast?_of_header (tableHeader?_eq_some hheader).2)

theorem statement_in_table (hblocks : scan.blocks = .table index :: outer)
    (hclose : tokens ≠ [.rightBrace]) (hopen : tokens.getLast? ≠ some .leftBrace) :
    scan.statement mode place tokens = scan.tableStatement mode place index tokens := by
  rw [statement, if_neg hclose, tableHeader?_eq_none hopen]
  simp only [if_neg hopen, hblocks]

theorem statement_at_top (hblocks : scan.blocks = []) (hclose : tokens ≠ [.rightBrace])
    (hopen : tokens.getLast? ≠ some .leftBrace) :
    scan.statement mode place tokens = scan.topLevelStatement mode place tokens := by
  rw [statement, if_neg hclose, tableHeader?_eq_none hopen]
  simp only [if_neg hopen, hblocks]

/-! ### Columns and relations -/

theorem column?_of_isNote (hnote : isNote tokens = true) : column? tokens = none := by
  unfold isNote at hnote
  split at hnote
  · rename_i keyword rest
    rw [column?]
    cases keyword.name? <;> rfl
  · contradiction

theorem addColumn_ne (htable : scan.tables[index]? = some table) (column : Column) :
    scan ≠ scan.addColumn index table column := by
  intro hsame
  obtain ⟨hlt, -⟩ := List.getElem?_eq_some_iff.mp htable
  have hget : some table = some { table with columns := table.columns ++ [column] } := by
    rw [← htable, congrArg (·.tables[index]?) hsame]
    simp [addColumn, hlt]
  have hlength := congrArg (fun table => table.columns.length) (Option.some.inj hget)
  simp at hlength

theorem unrecognized_strict :
    (scan.unrecognized .strict place).outcome = .error (.unrecognized place.line place.text) := rfl

theorem outcome_tableStatement_strict (htable : scan.tables[index]? = some table) :
    (scan.tableStatement .strict place index tokens).outcome =
      match column? tokens with
      | some (column, []) => .ok (scan.addColumn index table column)
      | some (_, _ :: _) => .error (.unrecognized place.line place.text)
      | none => if isNote tokens then .ok scan
        else .error (.unrecognized place.line place.text) := by
  unfold tableStatement
  cases column? tokens with
  | none =>
      dsimp only
      split
      · rfl
      · exact unrecognized_strict
  | some found =>
      obtain ⟨column, rest⟩ := found
      cases rest with
      | nil =>
          rw [htable]
          rfl
      | cons token rest => rfl

/-- In a table the strict mode accepts a column that takes up all tokens, besides notes. -/
theorem tableStatement_strict (place : Place) (tokens : List Token)
    (htable : scan.tables[index]? = some table) :
    ((∃ column, (scan.tableStatement .strict place index tokens).outcome =
        .ok (scan.addColumn index table column)) ↔ ∃ column, column? tokens = some (column, [])) ∧
      ((scan.tableStatement .strict place index tokens).outcome =
          .error (.unrecognized place.line place.text) ↔
        isNote tokens = false ∧ ¬ ∃ column, column? tokens = some (column, [])) := by
  rw [outcome_tableStatement_strict htable]
  have hnote : isNote tokens = true → column? tokens = none := column?_of_isNote
  split
  · rename_i column hcolumn
    simp [hcolumn]
  · rename_i column token rest hcolumn
    simpa [hcolumn] using hnote
  · rename_i hcolumn
    split
    · rename_i hnote
      have hother : ∀ column, scan ≠ scan.addColumn index table column := addColumn_ne htable
      simp [hcolumn, hnote, hother]
    · rename_i hnote
      simpa [hcolumn] using hnote

/-- Outside of all blocks the strict mode accepts what is read as a relation. -/
theorem topLevelStatement_strict (place : Place) (tokens : List Token) (scan : Scan) :
    ((∃ named, (scan.topLevelStatement .strict place tokens).outcome =
      .ok (scan.addRelation named)) ↔
        ∃ named, relation? tokens = some named) ∧
      ((scan.topLevelStatement .strict place tokens).outcome =
          .error (.unrecognized place.line place.text) ↔
        ¬ ∃ named, relation? tokens = some named) := by
  unfold topLevelStatement
  cases hrelation : relation? tokens with
  | none =>
      refine ⟨iff_of_false ?_ (by simp), iff_of_true rfl (by simp)⟩
      rintro ⟨named, h⟩
      cases h
  | some named =>
      refine ⟨iff_of_true ⟨named, rfl⟩ ⟨named, rfl⟩, iff_of_false ?_ fun hnone =>
        hnone ⟨named, rfl⟩⟩
      intro h
      cases h

/-! ### The grammar of what is accepted -/

/-- A table takes a column by a statement that ends in no brace and consists of the column. -/
theorem strict_in_table (hblocks : scan.blocks = .table index :: outer)
    (htable : scan.tables[index]? = some table) :
    ((∃ column, (scan.statement .strict place tokens).outcome =
      .ok (scan.addColumn index table column)) ↔
        tokens.getLast? ≠ some .leftBrace ∧ (IsColumn tokens ∨ IsOpenColumn tokens)) ∧
      ((scan.statement .strict place tokens).outcome =
        .error (.unrecognized place.line place.text) ↔
        tokens ≠ [.rightBrace] ∧ tokens.getLast? ≠ some .leftBrace ∧ isNote tokens = false ∧
          ¬ (IsColumn tokens ∨ IsOpenColumn tokens)) := by
  rw [← column?_eq_some_nil_iff]
  by_cases hopen : tokens.getLast? = some .leftBrace
  · obtain ⟨next, hnext, hdiffers⟩ := statement_opens .strict place scan hopen
    have hother : ∀ column, next ≠ scan.addColumn index table column := by
      rintro column rfl
      simp [addColumn] at hdiffers
    simp [hnext, hopen, hother]
  by_cases hclose : tokens = [.rightBrace]
  · subst hclose
    have houtcome :
        (scan.statement .strict place [.rightBrace]).outcome =
          .ok { scan with blocks := outer } := by
      rw [statement, if_pos rfl, closeBlock, hblocks]
      rfl
    have hother : ∀ column, ({ scan with blocks := outer } : Scan) ≠
        scan.addColumn index table column := by
      intro column hsame
      have hlength := congrArg (fun scan => scan.blocks.length) hsame
      simp [addColumn, hblocks] at hlength
    have hcolumn : column? [.rightBrace] = none := rfl
    simp [houtcome, hother, hcolumn]
  · rw [statement_in_table hblocks hclose hopen]
    obtain ⟨haccepts, hrefuses⟩ := tableStatement_strict place tokens htable
    rw [haccepts, hrefuses]
    simp [hopen, hclose]

/-- Outside of all blocks a relation is taken by a statement that ends in no brace and begins with
the relation. -/
theorem strict_at_top (hblocks : scan.blocks = []) :
    ((∃ named, (scan.statement .strict place tokens).outcome = .ok (scan.addRelation named)) ↔
        tokens.getLast? ≠ some .leftBrace ∧ (IsRelation tokens ∨ IsTrailedRelation tokens)) ∧
      ((scan.statement .strict place tokens).outcome =
        .error (.unrecognized place.line place.text) ↔
        tokens.getLast? ≠ some .leftBrace ∧ ¬ (IsRelation tokens ∨ IsTrailedRelation tokens)) := by
  rw [← relation?_isSome_iff]
  by_cases hopen : tokens.getLast? = some .leftBrace
  · obtain ⟨next, hnext, hdiffers⟩ := statement_opens .strict place scan hopen
    have hother : ∀ named, next ≠ scan.addRelation named := by
      rintro named rfl
      simp [addRelation] at hdiffers
    simp [hnext, hopen, hother]
  by_cases hclose : tokens = [.rightBrace]
  · have houtcome : (scan.statement .strict place tokens).outcome =
        .error (.unrecognized place.line place.text) := by
      rw [statement, if_pos hclose, closeBlock, hblocks]
      exact unrecognized_strict
    have hrelation : relation? tokens = none := by
      rw [hclose]
      rfl
    simp [houtcome, hopen, hrelation]
  · rw [statement_at_top hblocks hclose hopen]
    obtain ⟨haccepts, hrefuses⟩ := topLevelStatement_strict place tokens scan
    rw [haccepts, hrefuses]
    simp [hopen]

/-- **What the strict mode accepts.**  Outside of braces, a statement in a table is accepted as a
column just if it is one, with settings that are closed or not, and a statement outside of all
blocks as a relation just if it is one, whatever stands behind it; notes apart, all others are
refused.  So the strict mode drops no token of a statement but settings of a column that are not
closed, and what stands behind a relation and its settings: these are read as if they were not
there. -/
theorem strict_statement_forms (hscan : Reachable scan) (place : Place) (tokens : List Token) :
    (∀ index outer, scan.blocks = .table index :: outer →
      ∃ table, scan.tables[index]? = some table ∧
      ((∃ column, (scan.statement .strict place tokens).outcome =
        .ok (scan.addColumn index table column)) ↔
        tokens.getLast? ≠ some .leftBrace ∧ (IsColumn tokens ∨ IsOpenColumn tokens)) ∧
      ((scan.statement .strict place tokens).outcome =
        .error (.unrecognized place.line place.text) ↔
        tokens ≠ [.rightBrace] ∧ tokens.getLast? ≠ some .leftBrace ∧ isNote tokens = false ∧
          ¬ (IsColumn tokens ∨ IsOpenColumn tokens))) ∧
    (scan.blocks = [] →
      ((∃ named, (scan.statement .strict place tokens).outcome = .ok (scan.addRelation named)) ↔
        tokens.getLast? ≠ some .leftBrace ∧ (IsRelation tokens ∨ IsTrailedRelation tokens)) ∧
      ((scan.statement .strict place tokens).outcome =
        .error (.unrecognized place.line place.text) ↔
        tokens.getLast? ≠ some .leftBrace ∧ ¬ (IsRelation tokens ∨ IsTrailedRelation tokens))) ∧
    (IsOpenColumn tokens → ¬ IsColumn tokens ∧
      ∃ kept dropped, tokens = kept ++ dropped ∧ dropped ≠ [] ∧
      IsColumn kept ∧ column? tokens = column? kept) ∧
    (IsTrailedRelation tokens → ¬ IsRelation tokens ∧ ∃ kept dropped, tokens = kept ++ dropped ∧
      dropped ≠ [] ∧ IsRelation kept ∧ relation? tokens = relation? kept) := by
  refine ⟨fun index outer hblocks => ?_, strict_at_top, fun hopen => ?_, fun htrailed => ?_⟩
  · obtain ⟨earlier, last, htables, rfl⟩ :=
      hscan.blocksNested.tables_eq (hblocks ▸ List.mem_cons_self)
    have htable : scan.tables[earlier.length]? = some last := by simp [htables]
    exact ⟨last, htable, strict_in_table hblocks htable⟩
  · exact ⟨hopen.not_isColumn, hopen.exists_isColumn⟩
  · exact ⟨htrailed.not_isRelation, htrailed.exists_isRelation⟩

/-- The scan behind the header of a table. -/
def inTable : Scan :=
  { tables := [{ name := "t" }], blocks := [.table 0] }

theorem reachable_inTable : Reachable inTable :=
  .statement .strict ⟨1, ""⟩ [.ident "Table", .ident "t",
    .leftBrace] .initial (by with_unfolding_all rfl)

/-- The tokens of `id int [pk`. -/
def openColumn : List Token :=
  [.ident "id", .ident "int", .leftBracket, .ident "pk"]

theorem isOpenColumn_openColumn : IsOpenColumn openColumn :=
  ⟨⟨.ident "id", .ident "int", [], [], rfl, rfl, .inl rfl, .inl rfl⟩, [.leftBracket, .ident "pk"],
    (takeGroup?_eq_none_iff (by decide)).mp (by decide), rfl⟩

/-- A column is accepted without its settings, as they are not closed. -/
theorem strict_statement_forms_of_open_settings :
    Reachable inTable ∧ inTable.blocks = [.table 0] ∧ IsOpenColumn openColumn ∧
      ¬ IsColumn openColumn ∧
      ∃ column, (inTable.statement .strict ⟨2, ""⟩ openColumn).outcome =
        .ok (inTable.addColumn 0 { name := "t" } column) := by
  obtain ⟨hin, -, hdrops, -⟩ := strict_statement_forms reachable_inTable ⟨2, ""⟩ openColumn
  obtain ⟨table, htable, haccepts, -⟩ := hin 0 [] rfl
  cases htable
  exact ⟨reachable_inTable, rfl, isOpenColumn_openColumn, (hdrops isOpenColumn_openColumn).1,
    haccepts.mpr ⟨by decide, .inr isOpenColumn_openColumn⟩⟩

/-- A relation with a word behind it that belongs to no setting. -/
def trailedSource : String :=
  "Ref: a.x > b.y cascade"

/-- The tokens of `Ref: a.x > b.y cascade`. -/
def trailedRelation : List Token :=
  [.ident "Ref", .colon, .ident "a", .dot, .ident "x", .greater, .ident "b", .dot, .ident "y",
    .ident "cascade"]

theorem isTrailedRelation_trailedRelation : IsTrailedRelation trailedRelation := by
  refine ⟨⟨.ident "Ref", none, true, ⟨⟨"a", "x"⟩, [], .ident "a", .ident "x", by simp, rfl, rfl⟩,
    .manyToOne, ⟨⟨"b", "y"⟩, [], .ident "b", .ident "y", by simp, rfl,
    rfl⟩, by decide +kernel, by simp⟩, [.ident "cascade"], ?_, by decide, rfl⟩
  rintro (hnil | ⟨inner, -, hgroup⟩)
  · contradiction
  · exact absurd (List.cons.inj hgroup).1 (by decide)

/-- **Tokens of accepted statements are dropped.**  The word behind the relation is accepted and
says nothing, and so are settings that are not closed, although neither statement has the form that
it is read as. -/
theorem strict_drops_tokens :
    statements (Lexer.tokenize trailedSource.toList).1 = [trailedRelation] ∧
      (∃ named, (Scan.statement .strict ⟨1, trailedSource⟩ trailedRelation {}).outcome =
        .ok (addRelation {} named)) ∧
      ¬ IsRelation trailedRelation ∧
      (parse .strict trailedSource.toList).outcome =
        .ok { relations := [⟨⟨"a", "x"⟩, ⟨"b", "y"⟩, .manyToOne, none, none⟩] } ∧
      (∃ column, (inTable.statement .strict ⟨2, ""⟩ openColumn).outcome =
        .ok (inTable.addColumn 0 { name := "t" } column)) ∧
      ¬ IsColumn openColumn ∧
      (parse .strict "Table t \x7b\n  id int [pk\n\x7d".toList).outcome =
        .ok { tables := [{ name := "t", columns := [{ name := "id", type := "int" }] }] } := by
  refine ⟨?_, ⟨_, rfl⟩, isTrailedRelation_trailedRelation.not_isRelation, ?_, ⟨_, rfl⟩,
    isOpenColumn_openColumn.not_isColumn, ?_⟩
  all_goals with_unfolding_all rfl

end Dbml.Source.Scan
