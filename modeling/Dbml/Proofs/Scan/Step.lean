import Dbml.Proofs.Scan.Outcome

/-!
# What a statement does, and what a run is

`Step` lists everything that one statement can do to a scan, with the events it reports and the
condition under which it does so; `statement_step` says that the list is complete.  A run is a
sequence of steps, with the failures of the lexer between them:

* `Run mode start events scan`: from `start` the scan `scan` is reached, and `events` are reported;
* `scanLines_run`: what the lines of a source come to is the end of a run, and
* `scanLines_error`: where they are refused, a run leads to the objection;
* `Reachable`: the scans that some statements lead to, each of them in either mode.

Later files prove an invariant of the scan by cases on `Step` and by induction on `Run`.
-/

namespace Dbml.Source.Scan

open Parsing

/-! ## One statement -/

/-- Everything that a statement can do to `scan`: the events it reports and what it comes to. -/
inductive Step (mode : Mode) (place : Place) (tokens : List Token) (scan : Scan) :
    List Event → Except ParseError Scan → Prop
  /-- A closing brace ends the innermost block. -/
  | blockClosed {block : Block} {outer : List Block} (hclose : tokens = [.rightBrace])
      (hblocks : scan.blocks = block :: outer) :
      Step mode place tokens scan [] (.ok { scan with blocks := outer })
  /-- The header of a table opens one, outside of all blocks or in place of another table. -/
  | tableOpened {header : TableHeader}
      (hblocks : scan.blocks = [] ∨ ∃ index outer, scan.blocks = .table index :: outer)
      (hheader : TableHeader.ofTokens? tokens = some header) :
      Step mode place tokens scan [.tableOpened header.name] (.ok (scan.openTable header))
  /-- The header of the project opens it outside of all blocks. -/
  | projectOpened {name : Option String} (hblocks : scan.blocks = [])
      (hheader : projectHeader? tokens = some name) :
      Step mode place tokens scan [] (.ok (scan.openProject name))
  /-- Any other opening brace begins a block to skip. -/
  | blockSkipped (hopen : tokens.getLast? = some .leftBrace) :
      Step mode place tokens scan [.blockSkipped place.line]
        (.ok { scan with blocks := .skipped :: scan.blocks })
  /-- A relation is stated outside of all blocks. -/
  | relationStated {named : NamedRelation} (hblocks : scan.blocks = [])
      (hrelation : relation? tokens = some named) :
      Step mode place tokens scan
        [.relationRegistered named.relation.source.table named.relation.cardinality.op
          named.relation.target.table]
        (.ok (scan.addRelation named))
  /-- A column ends its statement. -/
  | columnAdded {index : Nat} {outer : List Block} {table : Table} {column : Column}
      (hblocks : scan.blocks = .table index :: outer)
      (hcolumn : column? tokens = some (column, [])) (htable : scan.tables[index]? = some table) :
      Step mode place tokens scan [] (.ok (scan.addColumn index table column))
  /-- The lenient mode ignores what follows a column. -/
  | columnTrailed {index : Nat} {outer : List Block} {table : Table} {column : Column}
      {rest : List Token} (hmode : mode = .lenient) (hblocks : scan.blocks = .table index :: outer)
      (hcolumn : column? tokens = some (column, rest)) (hrest : rest ≠ [])
      (htable : scan.tables[index]? = some table) :
      Step mode place tokens scan [.trailingTokensIgnored place.line place.text column.name]
        (.ok (scan.addColumn index table column))
  /-- A setting of the project. -/
  | settingMade {outer : List Block} {key value : String}
      (hblocks : scan.blocks = .project :: outer) :
      Step mode place tokens scan [] (.ok (scan.setMetadata key value))
  /-- A note on a table, or anything in a skipped block. -/
  | contentIgnored : Step mode place tokens scan [] (.ok scan)
  /-- The lenient mode passes over a statement. -/
  | passedOver (hmode : mode = .lenient) :
      Step mode place tokens scan [.statementSkipped place.line place.text] (.ok scan)
  /-- The strict mode refuses a statement, or what follows a column. -/
  | refused (hmode : mode = .strict) :
      Step mode place tokens scan [] (.error (.unrecognized place.line place.text))
  /-- The open table does not exist. -/
  | tableMissing {index : Nat} {outer : List Block} {events : List Event}
      (hblocks : scan.blocks = .table index :: outer) (htable : scan.tables[index]? = none) :
      Step mode place tokens scan events (.error (.noSuchTable index))

section Step

variable {mode : Mode} {place : Place} {tokens : List Token} {scan : Scan}

theorem unrecognized_step :
    Step mode place tokens scan (scan.unrecognized mode place).events
      (scan.unrecognized mode place).outcome := by
  cases mode with
  | lenient => exact .passedOver rfl
  | strict => exact .refused rfl

theorem topLevelStatement_step (hblocks : scan.blocks = []) :
    Step mode place tokens scan (scan.topLevelStatement mode place tokens).events
      (scan.topLevelStatement mode place tokens).outcome := by
  unfold topLevelStatement
  split
  · rename_i named hrelation
    exact .relationStated hblocks hrelation
  · exact unrecognized_step

theorem tableStatement_step {index : Nat} {outer : List Block}
    (hblocks : scan.blocks = .table index :: outer) :
    Step mode place tokens scan (scan.tableStatement mode place index tokens).events
      (scan.tableStatement mode place index tokens).outcome := by
  unfold tableStatement
  cases hcolumn : column? tokens with
  | none =>
      dsimp only
      split
      · exact .contentIgnored
      · exact unrecognized_step
  | some found =>
      obtain ⟨column, rest⟩ := found
      cases rest with
      | nil =>
          cases htable : scan.tables[index]? with
          | none => exact .tableMissing hblocks htable
          | some table => exact .columnAdded hblocks hcolumn htable
      | cons token rest =>
          cases mode with
          | strict => exact .refused rfl
          | lenient =>
              cases htable : scan.tables[index]? with
              | none => exact .tableMissing hblocks htable
              | some table =>
                  exact .columnTrailed rfl hblocks hcolumn (List.cons_ne_nil _ _) htable

theorem projectStatement_step {outer : List Block} (hblocks : scan.blocks = .project :: outer) :
    Step mode place tokens scan (scan.projectStatement mode place tokens).events
      (scan.projectStatement mode place tokens).outcome := by
  unfold projectStatement
  split
  · exact .settingMade hblocks
  · exact .settingMade hblocks
  · exact unrecognized_step

theorem closeBlock_step (hclose : tokens = [.rightBrace]) :
    Step mode place tokens scan (scan.closeBlock mode place).events
      (scan.closeBlock mode place).outcome := by
  unfold closeBlock
  split
  · exact unrecognized_step
  · rename_i block outer hblocks
    exact .blockClosed hclose hblocks

theorem openBlock_step (hopen : tokens.getLast? = some .leftBrace) :
    Step mode place tokens scan (scan.openBlock place tokens).events
      (scan.openBlock place tokens).outcome := by
  unfold openBlock
  split
  · rename_i name hblocks hheader
    exact .projectOpened hblocks hheader
  · exact .blockSkipped hopen

theorem ne_close_of_opens (hopens : tokens.getLast? = some .leftBrace) :
    tokens ≠ [.rightBrace] := by
  intro hclose
  rw [hclose] at hopens
  contradiction

/-- A table begins only outside of all blocks or in another table. -/
theorem tableHeader?_eq_some {header : TableHeader} (h : scan.tableHeader? tokens = some header) :
    (scan.blocks = [] ∨ ∃ index outer, scan.blocks = .table index :: outer) ∧
      TableHeader.ofTokens? tokens = some header := by
  unfold tableHeader? at h
  split at h
  · rename_i hblocks
    exact ⟨.inl hblocks, h⟩
  · rename_i index outer hblocks
    exact ⟨.inr ⟨index, outer, hblocks⟩, h⟩
  · contradiction

variable (mode place tokens scan)

/-- A statement does one of the things that `Step` lists. -/
theorem statement_step :
    Step mode place tokens scan (scan.statement mode place tokens).events
      (scan.statement mode place tokens).outcome := by
  -- the cases come in the order in which a statement is read
  unfold statement
  split
  · rename_i hclose
    exact closeBlock_step hclose
  · cases hheader : scan.tableHeader? tokens with
    | some header =>
        obtain ⟨hblocks, hheader⟩ := tableHeader?_eq_some hheader
        exact .tableOpened hblocks hheader
    | none =>
        dsimp only
        split
        · rename_i hopen
          exact openBlock_step hopen
        · split
          · rename_i hblocks
            exact topLevelStatement_step hblocks
          · rename_i hblocks
            exact tableStatement_step hblocks
          · rename_i hblocks
            exact projectStatement_step hblocks
          · exact .contentIgnored

end Step

/-! ## Runs -/

/-- From `start`, statements and failures of the lexer lead to a scan and report the events. -/
inductive Run (mode : Mode) (start : Scan) : List Event → Scan → Prop
  | start : Run mode start [] start
  | statement {events : List Event} {scan next : Scan} (place : Place) (tokens : List Token)
      (hrun : Run mode start events scan)
      (hnext : (scan.statement mode place tokens).outcome = .ok next) :
      Run mode start (events ++ (scan.statement mode place tokens).events) next
  | lexFailure {events : List Event} {scan : Scan} (line : Nat) (error : LexError)
      (hrun : Run mode start events scan) :
      Run mode start (events ++ [.restOfLineIgnored line error]) scan

/-- The scans that statements lead to, each of them read in either mode. -/
inductive Reachable : Scan → Prop
  | initial : Reachable {}
  | statement {scan next : Scan} (mode : Mode) (place : Place) (tokens : List Token)
      (hscan : Reachable scan) (hnext : (scan.statement mode place tokens).outcome = .ok next) :
      Reachable next

section Run

variable {mode : Mode} {start scan next : Scan} {events more : List Event}

/-- What every step and every failure of the lexer preserves, a run preserves. -/
theorem Run.preserves {P : List Event → Scan → Prop} (hrun : Run mode start events scan)
    (hstart : P [] start)
    (hstep : ∀ {events scan place tokens more next}, P events scan →
      Step mode place tokens scan more (.ok next) → P (events ++ more) next)
    (hlex : ∀ {events scan} (line : Nat) (error : LexError), P events scan →
      P (events ++ [.restOfLineIgnored line error]) scan) :
    P events scan := by
  induction hrun with
  | start => exact hstart
  | statement place tokens _ hnext ih => exact hstep ih (hnext ▸ statement_step mode place tokens _)
  | lexFailure line error _ ih => exact hlex line error ih

theorem Run.trans (hfirst : Run mode start events scan) (hsecond : Run mode scan more next) :
    Run mode start (events ++ more) next := by
  induction hsecond with
  | start => rwa [List.append_nil]
  | statement place tokens _ hnext ih =>
      rw [← List.append_assoc]
      exact ih.statement place tokens hnext
  | lexFailure line error _ ih =>
      rw [← List.append_assoc]
      exact ih.lexFailure line error

theorem Run.reachable (hrun : Run mode start events scan) (hstart : Reachable start) :
    Reachable scan := by
  induction hrun with
  | start => exact hstart
  | statement place tokens _ hnext ih => exact ih.statement mode place tokens hnext
  | lexFailure _ _ _ ih => exact ih

/-! ### The lines of a source -/

theorem lineStatements_run {place : Place} {statements : List (List Token)}
    (h : (lineStatements mode place statements scan).outcome = .ok next) :
    Run mode scan (lineStatements mode place statements scan).events next := by
  induction statements generalizing scan with
  | nil =>
      cases h
      exact .start
  | cons tokens rest ih =>
      obtain ⟨mid, hmid, hrest⟩ := outcome_bind_eq_ok.mp h
      rw [lineStatements, (bind_of_ok hmid _).2]
      exact (Run.start.statement place tokens hmid).trans (ih hrest)

theorem lineStatements_error {place : Place} {statements : List (List Token)} {error : ParseError}
    (h : (lineStatements mode place statements scan).outcome = .error error) :
    ∃ events mid tokens, Run mode scan events mid ∧
      (mid.statement mode place tokens).outcome = .error error := by
  induction statements generalizing scan with
  | nil => cases h
  | cons tokens rest ih =>
      rcases outcome_bind_eq_error.mp h with hfirst | ⟨mid, hmid, hrest⟩
      · exact ⟨[], scan, tokens, .start, hfirst⟩
      · obtain ⟨events, last, culprit, hrun, herror⟩ := ih hrest
        exact ⟨_, last, culprit, (Run.start.statement place tokens hmid).trans hrun, herror⟩

theorem scanLine_of_lexed {number : Nat} {line : List Char} {tokens : List Token}
    (h : Lexer.tokenize (Text.trim line) = (tokens, none)) :
    scan.scanLine mode number line =
      lineStatements mode ⟨number, String.ofList (Text.trim line)⟩ (statements tokens) scan := by
  simp only [scanLine, h]

theorem scanLine_of_failure {number : Nat} {line : List Char} {tokens : List Token}
    {error : LexError} (h : Lexer.tokenize (Text.trim line) = (tokens, some error)) :
    scan.scanLine mode number line =
      scan.lexFailure mode number error >>= fun _ =>
        lineStatements mode ⟨number, String.ofList (Text.trim line)⟩ (statements tokens) scan := by
  simp only [scanLine, h]

/-- A failure of the lexer is passed over with a report, or refused in the strict mode. -/
theorem lexFailure_cases (mode : Mode) (line : Nat) (error : LexError) (scan : Scan) :
    ((scan.lexFailure mode line error).outcome = .ok () ∧
        (scan.lexFailure mode line error).events = [.restOfLineIgnored line error]) ∨
      mode = .strict ∧ (scan.lexFailure mode line error).outcome = .error (.lex line error) := by
  unfold lexFailure
  split
  · exact .inl ⟨rfl, rfl⟩
  · cases mode with
    | lenient => exact .inl ⟨rfl, rfl⟩
    | strict => exact .inr ⟨rfl, rfl⟩

theorem scanLine_run {number : Nat} {line : List Char}
    (h : (scan.scanLine mode number line).outcome = .ok next) :
    Run mode scan (scan.scanLine mode number line).events next := by
  cases htokens : Lexer.tokenize (Text.trim line) with
  | mk tokens failure =>
      cases failure with
      | none =>
          rw [scanLine_of_lexed htokens] at h ⊢
          exact lineStatements_run h
      | some error =>
          rw [scanLine_of_failure htokens] at h ⊢
          rcases lexFailure_cases mode number error scan with ⟨hok, hevents⟩ | ⟨-, herror⟩
          · rw [(bind_of_ok hok _).1] at h
            rw [(bind_of_ok hok _).2, hevents]
            exact (Run.start.lexFailure number error).trans (lineStatements_run h)
          · rw [(bind_of_error herror _).1] at h
            contradiction

theorem scanLine_error {number : Nat} {line : List Char} {error : ParseError}
    (h : (scan.scanLine mode number line).outcome = .error error) :
    (mode = .strict ∧ ∃ failure, error = .lex number failure) ∨
      ∃ events mid place tokens, Run mode scan events mid ∧
        (mid.statement mode place tokens).outcome = .error error := by
  cases htokens : Lexer.tokenize (Text.trim line) with
  | mk tokens failure =>
      cases failure with
      | none =>
          rw [scanLine_of_lexed htokens] at h
          obtain ⟨events, mid, culprit, hrun, herror⟩ := lineStatements_error h
          exact .inr ⟨events, mid, _, culprit, hrun, herror⟩
      | some failure =>
          rw [scanLine_of_failure htokens] at h
          rcases lexFailure_cases mode number failure scan with ⟨hok, -⟩ | ⟨hmode, herror⟩
          · rw [(bind_of_ok hok _).1] at h
            obtain ⟨events, mid, culprit, hrun, herror⟩ := lineStatements_error h
            exact .inr ⟨events, mid, _, culprit, hrun, herror⟩
          · rw [(bind_of_error herror _).1] at h
            cases h
            exact .inl ⟨hmode, failure, rfl⟩

theorem scanLines_append_eq_bind (number : Nat) (first second : List (List Char)) (scan : Scan) :
    scanLines mode number (first ++ second) scan =
      scanLines mode number first scan >>= scanLines mode (number + first.length) second := by
  induction first generalizing number scan with
  | nil => rfl
  | cons line rest ih =>
      rw [List.cons_append, scanLines, scanLines, bind_assoc, List.length_cons,
        Nat.add_comm rest.length, ← Nat.add_assoc]
      exact bind_congr fun next => ih (number + 1) next

/-- What the lines of a source come to is the end of a run. -/
theorem scanLines_run {number : Nat} {lines : List (List Char)}
    (h : (scanLines mode number lines scan).outcome = .ok next) :
    Run mode scan (scanLines mode number lines scan).events next := by
  induction lines generalizing number scan with
  | nil =>
      cases h
      exact .start
  | cons line rest ih =>
      obtain ⟨mid, hmid, hrest⟩ := outcome_bind_eq_ok.mp h
      rw [scanLines, (bind_of_ok hmid _).2]
      exact (scanLine_run hmid).trans (ih hrest)

/-- Where the lines of a source are refused, a run leads to a failure of the lexer or to a statement
that is refused. -/
theorem scanLines_error {number : Nat} {lines : List (List Char)} {error : ParseError}
    (h : (scanLines mode number lines scan).outcome = .error error) :
    (mode = .strict ∧ ∃ line failure, error = .lex line failure) ∨
      ∃ events mid place tokens, Run mode scan events mid ∧
        (mid.statement mode place tokens).outcome = .error error := by
  induction lines generalizing number scan with
  | nil => cases h
  | cons line rest ih =>
      rcases outcome_bind_eq_error.mp h with hline | ⟨mid, hmid, hrest⟩
      · rcases scanLine_error hline with ⟨hmode, failure, rfl⟩ | hstatement
        · exact .inl ⟨hmode, number, failure, rfl⟩
        · exact .inr hstatement
      · rcases ih hrest with hlex | ⟨events, last, place, tokens, hrun, herror⟩
        · exact .inl hlex
        · exact .inr ⟨_, last, place, tokens, (scanLine_run hmid).trans hrun, herror⟩

end Run

end Dbml.Source.Scan
