import Dbml.Proofs.Scan.Lockstep
import Dbml.Proofs.Source.Statements

/-!
# Lines in which the lexer fails

A failure of the lexer is judged before the statements of its line are read, so by the blocks that
are open where the line begins.  In the strict mode it ends the scan unless the innermost of them is
a skipped one; what the line opens or closes itself comes too late to count.

* `lexFailure_strict`: the failure of one line;
* `scanLines_failure`: the lines up to it come to this failure, and `le_of_scanLines_lex`: those
  behind it fail in later lines only, so that nothing else ends the scan for the same reason;
* `Step.inSkipped`: a statement without braces leaves it at that whether the innermost block is
  skipped.

`strict_stops_at_failure_iff` compares the blocks before the line with those behind its statements.
The two say the same unless the line has braces outside of strings.
-/

namespace Dbml.Source.Scan

open Parsing

/-- The innermost block that is open is one whose content is ignored. -/
def inSkipped (scan : Scan) : Bool :=
  scan.blocks.head? = some .skipped

variable {mode : Mode} {place : Place} {tokens : List Token} {scan next : Scan}
  {events : List Event}

/-! ### The failure of a line -/

theorem lexFailure_strict (line : Nat) (error : LexError) (scan : Scan) :
    (scan.lexFailure .strict line error).outcome =
      if scan.inSkipped then .ok () else .error (.lex line error) := by
  unfold lexFailure inSkipped
  split
  · rename_i outer hblocks
    simp [hblocks]
  · rename_i hblocks
    have hhead : scan.blocks.head? ≠ some .skipped := by
      intro hskipped
      obtain ⟨outer, houter⟩ := List.head?_eq_some_iff.mp hskipped
      exact hblocks outer houter
    rw [outcome_raise_strict]
    simp [hhead, Objection.toError]

theorem Step.ne_lex {line : Nat} {error : LexError} :
    ¬ Step mode place tokens scan events (.error (.lex line error)) := by
  intro hstep
  cases hstep

theorem lineStatements_ne_lex {statements : List (List Token)} {line : Nat} {error : LexError} :
    (lineStatements mode place statements scan).outcome ≠ .error (.lex line error) := by
  intro h
  obtain ⟨events, mid, culprit, -, herror⟩ := lineStatements_error h
  have hstep := statement_step mode place culprit mid
  rw [herror] at hstep
  exact hstep.ne_lex

theorem eq_of_scanLine_lex {number line : Nat} {text : List Char} {error : LexError}
    (h : (scan.scanLine mode number text).outcome = .error (.lex line error)) : line = number := by
  cases htokens : Lexer.tokenize (Text.trim text) with
  | mk tokens failure =>
      cases failure with
      | none =>
          rw [scanLine_of_lexed htokens] at h
          exact absurd h lineStatements_ne_lex
      | some failure =>
          rw [scanLine_of_failure htokens] at h
          rcases outcome_bind_eq_error.mp h with hlex | ⟨_, _, hstatements⟩
          · rcases lexFailure_cases mode number failure scan with ⟨hok, -⟩ | ⟨-, herror⟩
            · rw [hok] at hlex
              cases hlex
            · rw [herror] at hlex
              cases hlex
              rfl
          · exact absurd hstatements lineStatements_ne_lex

theorem le_of_scanLines_lex {number line : Nat} {lines : List (List Char)} {error : LexError}
    (h : (scanLines mode number lines scan).outcome = .error (.lex line error)) :
      number ≤ line := by
  induction lines generalizing number scan with
  | nil => cases h
  | cons text rest ih =>
      rcases outcome_bind_eq_error.mp h with hline | ⟨mid, -, hrest⟩
      · exact Nat.le_of_eq (eq_of_scanLine_lex hline).symm
      · have hlater : number + 1 ≤ line := ih hrest
        omega

theorem outcome_scanLines_append {number : Nat} {before after : List (List Char)}
    (hbefore : (scanLines mode number before scan).outcome = .ok next) :
    (scanLines mode number (before ++ after) scan).outcome =
      (scanLines mode (number + before.length) after next).outcome := by
  rw [scanLines_append_eq_bind, (bind_of_ok hbefore _).1]

/-- The lines from one on in which the lexer fails come to that failure just if the innermost block
is not a skipped one. -/
theorem scanLines_failure {number : Nat} {line : List Char} {after : List (List Char)}
    {error : LexError} (hfailure : Lexer.tokenize (Text.trim line) = (tokens, some error)) :
    (scanLines .strict number (line :: after) scan).outcome = .error (.lex number error) ↔
      scan.inSkipped = false := by
  have hline := lexFailure_strict number error scan
  rw [scanLines, outcome_bind_eq_error, scanLine_of_failure hfailure]
  cases hskipped : scan.inSkipped with
  | false =>
      rw [hskipped, if_neg Bool.false_ne_true] at hline
      exact iff_of_true (.inl (bind_of_error hline _).1) rfl
  | true =>
      rw [hskipped, if_pos rfl] at hline
      refine iff_of_false ?_ Bool.noConfusion
      rw [(bind_of_ok hline _).1]
      rintro (hstatements | ⟨mid, -, hrest⟩)
      · exact lineStatements_ne_lex hstatements
      -- the lines behind this one have other numbers
      · have hlater : number + 1 ≤ number := le_of_scanLines_lex hrest
        omega

/-! ### Statements without braces -/

/-- A statement that neither is a closing brace nor ends in an opening one leaves the innermost
block skipped or not. -/
theorem Step.inSkipped (hstep : Step mode place tokens scan events (.ok next))
    (hclose : tokens ≠ [.rightBrace]) (hopen : tokens.getLast? ≠ some .leftBrace) :
    next.inSkipped = scan.inSkipped := by
  cases hstep with
  | blockClosed hclosed => exact absurd hclosed hclose
  | blockSkipped hopened => exact absurd hopened hopen
  -- a table opens in place of another one or of none, neither of which is skipped
  | tableOpened hblocks hheader =>
      rcases hblocks with hblocks | ⟨index, outer, hblocks⟩ <;>
        simp [Scan.inSkipped, openTable, hblocks]
  | projectOpened hblocks hheader =>
      simp [Scan.inSkipped, openProject_blocks, hblocks]
  | _ => rfl

theorem inSkipped_of_lineStatements {statements : List (List Token)}
    (h : (lineStatements mode place statements scan).outcome = .ok next)
    (hbraces : ∀ tokens ∈ statements, Token.leftBrace ∉ tokens ∧ Token.rightBrace ∉ tokens) :
    next.inSkipped = scan.inSkipped := by
  induction statements generalizing scan with
  | nil =>
      cases h
      rfl
  | cons tokens rest ih =>
      obtain ⟨mid, hmid, hrest⟩ := outcome_bind_eq_ok.mp h
      obtain ⟨⟨hopen, hclose⟩, hothers⟩ := List.forall_mem_cons.mp hbraces
      have hstep := statement_step mode place tokens scan
      rw [hmid] at hstep
      rw [ih hrest hothers]
      apply hstep.inSkipped
      · rintro rfl
        exact hclose (List.mem_singleton_self _)
      · intro hlast
        exact hopen (List.mem_of_getLast? hlast)

/-! ### Strict scans -/

variable {source line : List Char} {before after : List (List Char)} {error : LexError}

theorem parse_strict_failure (hlines : Text.lines source = before ++ line :: after)
    (hreached : (scanLines .strict 1 before {}).outcome = .ok scan) :
    (parse .strict source).outcome = .error (.lex (before.length + 1) error) ↔
      (scanLines .strict (before.length + 1) (line :: after) scan).outcome =
        .error (.lex (before.length + 1) error) := by
  rw [← Nat.add_comm 1, ← outcome_scanLines_append hreached, ← hlines]
  constructor
  · intro h
    rcases outcome_bind_eq_error.mp (parse_eq_error h) with hscan | ⟨last, -, hfinish⟩
    · exact hscan
    -- at the end of the source only a table that is left open is refused
    · rcases finish_cases .strict last with hpure | ⟨-, index, -, hthrow⟩
      · rw [hpure] at hfinish
        cases hfinish
      · rw [hthrow] at hfinish
        cases hfinish
  · intro h
    exact (parse_of_error (bind_of_error h _).1).1

theorem lineStatements_lenient_isOk (hscan : Reachable scan) (place : Place)
    (statements : List (List Token)) :
    ∃ behind, (lineStatements .lenient place statements scan).outcome = .ok behind := by
  cases h : (lineStatements .lenient place statements scan).outcome with
  | ok behind => exact ⟨behind, rfl⟩
  | error error =>
      obtain ⟨events, mid, tokens, hrun, herror⟩ := lineStatements_error h
      obtain ⟨hmode, -⟩ := statement_error (hrun.reachable hscan).blocksNested herror
      contradiction

/-- **Where a strict scan stops for the lexer.**  Of a line that a strict scan reaches and in which
the lexer fails, the parse is refused for this failure just if the innermost block before the line
is not a skipped one.  This is said as well by the innermost block behind the statements of the
line, if and only if they leave it skipped or not; and so do statements without braces. -/
theorem strict_stops_at_failure_iff (hlines : Text.lines source = before ++ line :: after)
    (hreached : (scanLines .strict 1 before {}).outcome = .ok scan)
    (hfailure : Lexer.tokenize (Text.trim line) = (tokens, some error)) :
    ((parse .strict source).outcome = .error (.lex (before.length + 1) error) ↔
        scan.inSkipped = false) ∧
      ∃ behind,
        (lineStatements .lenient ⟨before.length + 1,
          String.ofList (Text.trim line)⟩ (statements tokens)
          scan).outcome = .ok behind ∧
        (((parse .strict source).outcome = .error (.lex (before.length + 1) error) ↔
            behind.inSkipped = false) ↔ behind.inSkipped = scan.inSkipped) ∧
        (Token.leftBrace ∉ tokens → Token.rightBrace ∉ tokens →
          behind.inSkipped = scan.inSkipped) := by
  have hstops : (parse .strict source).outcome = .error (.lex (before.length + 1) error) ↔
      scan.inSkipped = false := by
    rw [parse_strict_failure hlines hreached, scanLines_failure hfailure]
  obtain ⟨behind, hbehind⟩ :=
    lineStatements_lenient_isOk ((scanLines_run hreached).reachable .initial)
    ⟨before.length + 1, String.ofList (Text.trim line)⟩ (statements tokens)
  refine ⟨hstops, behind, hbehind, ?_, ?_⟩
  · rw [hstops]
    cases scan.inSkipped <;> cases behind.inSkipped <;> simp
  · intro hopen hclose
    exact inSkipped_of_lineStatements hbehind fun _ hstatement =>
      no_brace_of_mem_statements hopen hclose hstatement

/-- Two enumerations, the second of which begins in the line that ends the first. -/
def strayBetweenBlocks : String :=
  "Enum e \x7b\n\x7d Enum f \x7b @\n\x7d"

/-- The line closes a skipped block and opens another, so that its failure is passed over either
way. -/
theorem strict_stops_at_failure_iff_of_two_blocks :
    ∃ before line after scan tokens error,
      Text.lines strayBetweenBlocks.toList = before ++ line :: after ∧
      (scanLines .strict 1 before {}).outcome = .ok scan ∧
      Lexer.tokenize (Text.trim line) = (tokens, some error) ∧
      scan.inSkipped = true ∧
      (parse .strict strayBetweenBlocks.toList).outcome ≠ .error (.lex (before.length + 1) error) ∧
      ∃ behind,
        (lineStatements .lenient ⟨before.length + 1,
          String.ofList (Text.trim line)⟩ (statements tokens)
          scan).outcome = .ok behind ∧
        (((parse .strict strayBetweenBlocks.toList).outcome =
              .error (.lex (before.length + 1) error) ↔ behind.inSkipped = false) ↔
          behind.inSkipped = scan.inSkipped) := by
  have hlines : Text.lines strayBetweenBlocks.toList =
      ["Enum e \x7b".toList] ++ "\x7d Enum f \x7b @".toList :: ["\x7d".toList] := by
    with_unfolding_all rfl
  have hreached : (scanLines .strict 1 ["Enum e \x7b".toList] {}).outcome =
      .ok { blocks := [.skipped] } := by
    with_unfolding_all rfl
  have hfailure : Lexer.tokenize (Text.trim "\x7d Enum f \x7b @".toList) =
      ([.rightBrace, .ident "Enum", .ident "f", .leftBrace, .endOfText],
        some (.unexpectedChar '@')) := by
    with_unfolding_all rfl
  obtain ⟨hstops, behind, hbehind, hagree, -⟩ :=
    strict_stops_at_failure_iff hlines hreached hfailure
  refine ⟨_, _, _, _, _, _, hlines, hreached, hfailure, rfl, ?_, behind, hbehind, hagree⟩
  rw [Ne, hstops]
  exact Bool.noConfusion

/-- An enumeration, with a stray character behind its closing brace. -/
def strayBehindBlock : String :=
  "Enum e \x7b\n  a\n\x7d @"

/-- An enumeration, with a stray character behind its opening brace. -/
def strayInBlock : String :=
  "Enum e \x7b @\n\x7d"

/-- **A line may close the block by which its failure is judged.**  Behind the brace that closes the
enumeration no block is open, and yet the strict mode passes over the failure; behind the one that
opens it the content is ignored, and yet the failure is refused. -/
theorem failure_judged_before_its_line :
    (∃ before line after scan behind tokens error,
      Text.lines strayBehindBlock.toList = before ++ line :: after ∧
      (scanLines .strict 1 before {}).outcome = .ok scan ∧
      Lexer.tokenize (Text.trim line) = (tokens, some error) ∧
      (lineStatements .lenient ⟨before.length + 1,
        String.ofList (Text.trim line)⟩ (statements tokens)
        scan).outcome = .ok behind ∧
      behind.inSkipped = false ∧ (parse .strict strayBehindBlock.toList).outcome = .ok {}) ∧
    ∃ before line after scan behind tokens error,
      Text.lines strayInBlock.toList = before ++ line :: after ∧
      (scanLines .strict 1 before {}).outcome = .ok scan ∧
      Lexer.tokenize (Text.trim line) = (tokens, some error) ∧
      (lineStatements .lenient ⟨before.length + 1,
        String.ofList (Text.trim line)⟩ (statements tokens)
        scan).outcome = .ok behind ∧
      behind.inSkipped = true ∧
      (parse .strict strayInBlock.toList).outcome = .error (.lex (before.length + 1) error) := by
  constructor
  · refine ⟨["Enum e \x7b".toList, "  a".toList], "\x7d @".toList, [], { blocks := [.skipped] }, {},
      [.rightBrace, .endOfText], .unexpectedChar '@', ?_, ?_, ?_, ?_, rfl, ?_⟩
    all_goals with_unfolding_all rfl
  · refine ⟨[], "Enum e \x7b @".toList, ["\x7d".toList], {}, { blocks := [.skipped] },
      [.ident "Enum", .ident "e", .leftBrace, .endOfText], .unexpectedChar '@', ?_, ?_, ?_, ?_, rfl,
        ?_⟩
    all_goals with_unfolding_all rfl

end Scan

end Dbml.Source
