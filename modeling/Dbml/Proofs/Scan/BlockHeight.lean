import Dbml.Proofs.Scan.Lines
import Dbml.Proofs.Scan.StrictStatements
import Dbml.Proofs.Source.Braces

/-!
# How many blocks a line leaves open

A line is cut into statements at its braces, and those in square brackets are exempt.  Whether a
statement opens a block is told from its last token, wherever that stands.  The two agree but for
one case: where a line, or what is lexed of it, ends in an opening brace in brackets, that brace
opens a block as well.

## Strategy

Of the open blocks it matters which are of tables, since the header of a table in another one opens
a block and closes one.  `nestingBehind` tells from the braces of a statement outside of brackets
how that changes, and `countedBraces` which of the braces of a line count.  A statement does to a
scan what `nestingBehind` says (`nesting_close`, `nesting_opening`, `nesting_other`), and a brace in
brackets comes on top (`nesting_bracketed`).  `induction_on_outerBraces` takes a line apart into
statements.
-/

namespace Dbml.Source

open Parsing

/-- The tokens of a line, up to where the lexer fails if it does. -/
def lineTokens (line : List Char) : List Token :=
  withoutEnd (Lexer.tokenize line).1

/-- The tokens end in an opening brace that stands in square brackets. -/
def endsInBrackets (tokens : List Token) : Bool :=
  tokens.getLast? = some .leftBrace && openBrackets 0 tokens ≠ 0

/-- The number of blocks that are open behind a brace, when there are `height` in front of it.
Outside of all blocks a closing brace closes none. -/
def heightBehind (height : Nat) : Token → Nat
  | .leftBrace => height + 1
  | .rightBrace => height - 1
  | _ => height

/-- Whether a block is that of a table. -/
def Block.isTable : Block → Bool
  | .table _ => true
  | _ => false

/-- A statement is the header of a table that takes the place of the innermost open block.  Of each
open block `nesting` says, from the inside out, whether it is that of a table. -/
def replacesTable (nesting : List Bool) (statement : List Token) : Bool :=
  nesting.head? = some true && (TableHeader.ofTokens? statement).isSome

/-- The blocks that are open behind a brace.  An opening one begins a table just if it ends a
`header` outside of all blocks. -/
def nestingBehindBrace (header : Bool) (nesting : List Bool) : Token → List Bool
  | .leftBrace => (nesting.isEmpty && header) :: nesting
  | .rightBrace => nesting.tail
  | _ => nesting

/-- The blocks that are open behind a statement, as its braces outside of brackets tell. -/
def nestingBehind (nesting : List Bool) (statement : List Token) : List Bool :=
  if replacesTable nesting statement then nesting
  else
    (outerBraces 0 statement).foldl
      (nestingBehindBrace (TableHeader.ofTokens? statement).isSome) nesting

/-- The braces of several statements outside of brackets, but for those of headers that take the
place of an open table. -/
def countedBraces (nesting : List Bool) : List (List Token) → List Token
  | [] => []
  | statement :: rest =>
    (if replacesTable nesting statement then [] else outerBraces 0 statement) ++
      countedBraces (nestingBehind nesting statement) rest

section Tokens

variable {front rest tokens : List Token} {brace : Token}

theorem endsInBrackets_cut (hdepth : openBrackets 0 front = 0) (hbrace : isBrace brace = true)
    (rest : List Token) : endsInBrackets (front ++ brace :: rest) = endsInBrackets rest := by
  unfold endsInBrackets
  rw [openBrackets_cut hdepth hbrace]
  cases rest with
  | nil =>
      have hnone : openBrackets 0 [] = 0 := rfl
      simp [hnone]
  | cons token rest =>
      rw [List.getLast?_append, List.getLast?_cons_cons,
        List.getLast?_eq_some_getLast (List.cons_ne_nil _ _)]
      rfl

theorem endsInBrackets_plain (htokens : outerBraces 0 tokens = []) :
    endsInBrackets tokens = true ↔ tokens.getLast? = some .leftBrace := by
  unfold endsInBrackets
  constructor
  · intro hends
    exact of_decide_eq_true (Bool.and_eq_true_iff.mp hends).1
  · intro hlast
    have hdepth : openBrackets 0 tokens ≠ 0 :=
      fun hdepth => getLast?_ne_brace htokens hdepth rfl hlast
    simp [hlast, hdepth]

end Tokens

section Nesting

variable {statements : List (List Token)}

theorem nestingBehind_plain (htokens : outerBraces 0 tokens = []) (nesting : List Bool) :
    nestingBehind nesting tokens = nesting := by
  unfold nestingBehind
  rw [htokens]
  exact ite_self nesting

theorem nestingBehind_close (nesting : List Bool) :
    nestingBehind nesting [.rightBrace] = nesting.tail := by
  have hheader : TableHeader.ofTokens? [.rightBrace] = none := rfl
  simp [nestingBehind, replacesTable, hheader, outerBraces, isBrace, nestingBehindBrace]

theorem length_foldl_nestingBehindBrace (header : Bool) (nesting : List Bool)
    (braces : List Token) :
    (braces.foldl (nestingBehindBrace header) nesting).length =
      braces.foldl heightBehind nesting.length := by
  induction braces generalizing nesting with
  | nil => rfl
  | cons brace braces ih =>
      rw [List.foldl_cons, List.foldl_cons, ih]
      congr 1
      cases brace <;> simp [nestingBehindBrace, heightBehind]

theorem length_nestingBehind (nesting : List Bool) (statement : List Token) :
    (nestingBehind nesting statement).length =
      (if replacesTable nesting statement then [] else outerBraces 0 statement).foldl heightBehind
        nesting.length := by
  unfold nestingBehind
  split
  · rfl
  · exact length_foldl_nestingBehindBrace _ nesting _

/-- The braces that count tell how many blocks are open. -/
theorem length_foldl_nestingBehind (nesting : List Bool) (statements : List (List Token)) :
    (statements.foldl nestingBehind nesting).length =
      (countedBraces nesting statements).foldl heightBehind nesting.length := by
  induction statements generalizing nesting with
  | nil => rfl
  | cons statement statements ih =>
      rw [List.foldl_cons, ih, countedBraces, List.foldl_append, length_nestingBehind]

/-- Without headers of tables all braces count. -/
theorem countedBraces_of_no_header
    (h : ∀ statement ∈ statements, TableHeader.ofTokens? statement = none) (nesting : List Bool) :
    countedBraces nesting statements = statements.flatMap (outerBraces 0) := by
  induction statements generalizing nesting with
  | nil => rfl
  | cons statement statements ih =>
      obtain ⟨hstatement, hothers⟩ := List.forall_mem_cons.mp h
      have hreplaces : replacesTable nesting statement = false := by
        simp [replacesTable, hstatement]
      rw [countedBraces, hreplaces, ih hothers, List.flatMap_cons]
      rfl

theorem flatMap_outerBraces (tokens : List Token) :
    (statementsAfter 0 [] tokens).flatMap (outerBraces 0) = outerBraces 0 tokens := by
  induction tokens using induction_on_outerBraces with
  | plain tokens htokens =>
      rw [statementsAfter_plain htokens, htokens]
      split
      · rfl
      · rw [List.flatMap_singleton, htokens]
  | opening front rest hfront hdepth ih =>
      rw [statementsAfter_opening hfront hdepth, List.flatMap_cons, ih,
        outerBraces_cut hfront hdepth rfl, outerBraces_cut hfront hdepth rfl]
      rfl
  | closing front rest hfront hdepth ih =>
      rw [statementsAfter_closing hfront hdepth, List.flatMap_append, List.flatMap_cons, ih,
        outerBraces_cut hfront hdepth rfl, statementsAfter_plain hfront]
      split
      · rfl
      · rw [List.flatMap_singleton, hfront]
        rfl

end Nesting

namespace Scan

variable {mode : Mode} {place : Place} {scan next : Scan} {tokens : List Token}

/-- Of each open block, from the inside out, whether it is that of a table. -/
def nesting (scan : Scan) : List Bool :=
  scan.blocks.map Block.isTable

/-! ### One statement -/

theorem nesting_close (h : (scan.statement mode place [.rightBrace]).outcome = .ok next) :
    next.nesting = scan.nesting.tail := by
  rw [statement, if_pos rfl, closeBlock] at h
  split at h
  · rename_i hblocks
    -- outside of all blocks the brace is passed over, if it is not refused
    cases mode with
    | strict => cases h
    | lenient =>
        cases h
        rw [nesting, hblocks]
        rfl
  · rename_i block outer hblocks
    cases h
    rw [nesting, nesting, hblocks]
    rfl

theorem nesting_openBlock (hopens : tokens.getLast? = some .leftBrace)
    (htable : scan.tableHeader? tokens = none)
    (h : (scan.statement mode place tokens).outcome = .ok next) :
      next.nesting = false :: scan.nesting := by
  rw [statement, if_neg (ne_close_of_opens hopens), htable] at h
  dsimp only at h
  rw [if_pos hopens, openBlock] at h
  split at h
  · rename_i name hblocks hheader
    cases h
    rw [nesting, openProject_blocks]
    rfl
  · cases h
    rfl

theorem nesting_opening (htokens : outerBraces 0 tokens = [.leftBrace])
    (hopens : tokens.getLast? = some .leftBrace)
    (h : (scan.statement mode place tokens).outcome = .ok next) :
    next.nesting = nestingBehind scan.nesting tokens := by
  cases hheader : scan.tableHeader? tokens with
  | none =>
      rw [nesting_openBlock hopens hheader h]
      unfold tableHeader? at hheader
      -- in a table or outside of all blocks the tokens are no header, elsewhere it does not matter
      cases hblocks : scan.blocks with
      | nil =>
          rw [hblocks] at hheader
          simp [nesting, nestingBehind, replacesTable, nestingBehindBrace, htokens, hblocks,
            hheader]
      | cons block outer =>
          rw [hblocks] at hheader
          cases block with
          | table index =>
              simp [nesting, nestingBehind, replacesTable, nestingBehindBrace, htokens, hblocks,
                hheader]
          | project | skipped =>
              simp [nesting, nestingBehind, replacesTable, nestingBehindBrace, htokens, hblocks,
                Block.isTable]
  | some header =>
      rw [statement, if_neg (ne_close_of_opens hopens), hheader] at h
      cases h
      obtain ⟨hblocks, htable⟩ := tableHeader?_eq_some hheader
      rcases hblocks with hblocks | ⟨index, outer, hblocks⟩
      · simp [nesting, nestingBehind, replacesTable, nestingBehindBrace, openTable, htokens,
          hblocks, htable, Block.isTable]
      · -- the table that is open is closed
        simp [nesting, nestingBehind, replacesTable, openTable, hblocks, htable, Block.isTable]

/-- An opening brace in brackets ends no header, so that it opens another block. -/
theorem nesting_bracketed (htokens : outerBraces 0 tokens = [])
    (hopens : tokens.getLast? = some .leftBrace)
    (h : (scan.statement mode place tokens).outcome = .ok next) :
      next.nesting = false :: scan.nesting := by
  have hheader : scan.tableHeader? tokens = none := by
    rw [Option.eq_none_iff_forall_ne_some]
    intro header hheader
    exact outerBraces_of_header (tableHeader?_eq_some hheader).2 htokens
  exact nesting_openBlock hopens hheader h

theorem nesting_other (hclose : tokens ≠ [.rightBrace]) (hopens : tokens.getLast? ≠ some .leftBrace)
    (h : (scan.statement mode place tokens).outcome = .ok next) : next.nesting = scan.nesting := by
  have hstep : Step mode place tokens scan (scan.statement mode place tokens).events (.ok next) :=
    h ▸ statement_step mode place tokens scan
  generalize (scan.statement mode place tokens).events = events at hstep
  cases hstep with
  | blockClosed hbrace hblocks => contradiction
  | tableOpened hblocks hheader => exact absurd (getLast?_of_header hheader) hopens
  | projectOpened hblocks hheader => exact absurd (getLast?_of_projectHeader hheader) hopens
  | blockSkipped hopen => contradiction
  | _ => rfl

/-! ### One line -/

/-- Without braces outside of brackets there is one statement at most, and it only opens a block
with a brace in brackets at its end. -/
theorem nesting_plain (htokens : outerBraces 0 tokens = [])
    (h : (lineStatements mode place (statementsAfter 0 [] tokens) scan).result? = some next) :
    next.nesting = List.replicate (endsInBrackets tokens).toNat false ++ scan.nesting := by
  rw [statementsAfter_plain htokens] at h
  by_cases hnil : tokens = []
  · subst hnil
    obtain rfl := Option.some.inj h
    rfl
  · rw [if_neg hnil, lineStatements, result?_bind] at h
    obtain ⟨only, honly, hlast⟩ := Option.bind_eq_some_iff.mp h
    obtain rfl := Option.some.inj hlast
    have houtcome := result?_eq_some.mp honly
    have hends := endsInBrackets_plain htokens
    by_cases hopens : tokens.getLast? = some .leftBrace
    · rw [hends.mpr hopens]
      exact nesting_bracketed htokens hopens houtcome
    · rw [Bool.eq_false_iff.mpr fun htrue => hopens (hends.mp htrue)]
      have hclose : tokens ≠ [.rightBrace] := by
        intro hclose
        rw [hclose] at htokens
        contradiction
      exact nesting_other hclose hopens houtcome

theorem nesting_statements (tokens : List Token) (scan : Scan)
    (h : (lineStatements mode place (statementsAfter 0 [] tokens) scan).result? = some next) :
    next.nesting = List.replicate (endsInBrackets tokens).toNat false ++
      (statementsAfter 0 [] tokens).foldl nestingBehind scan.nesting := by
  induction tokens using induction_on_outerBraces generalizing scan with
  | plain tokens htokens =>
      rw [nesting_plain htokens h, statementsAfter_plain htokens]
      split
      · rfl
      · rw [List.foldl_cons, nestingBehind_plain htokens]
        rfl
  | opening front rest hfront hdepth ih =>
      rw [statementsAfter_opening hfront hdepth, lineStatements, result?_bind] at h
      obtain ⟨behind, hfirst, hrest⟩ := Option.bind_eq_some_iff.mp h
      have hopens : (front ++ [Token.leftBrace]).getLast? = some .leftBrace := List.getLast?_concat
      have hbraces : outerBraces 0 (front ++ [.leftBrace]) = [.leftBrace] :=
        outerBraces_cut hfront hdepth rfl []
      rw [ih behind hrest, endsInBrackets_cut hdepth rfl, statementsAfter_opening hfront hdepth,
        List.foldl_cons, nesting_opening hbraces hopens (result?_eq_some.mp hfirst)]
  | closing front rest hfront hdepth ih =>
      rw [statementsAfter_closing hfront hdepth, lineStatements_append] at h
      obtain ⟨before, hbefore, h⟩ := Option.bind_eq_some_iff.mp h
      rw [lineStatements, result?_bind] at h
      obtain ⟨behind, hbrace, hrest⟩ := Option.bind_eq_some_iff.mp h
      -- no bracket is open behind what stands in front, so that it does not end in one
      have hends : endsInBrackets front = false := by
        unfold endsInBrackets
        simp [hdepth]
      have hplain : before.nesting = scan.nesting := by
        rw [nesting_plain hfront hbefore, hends]
        rfl
      have hfold : (statementsAfter 0 [] front).foldl nestingBehind scan.nesting =
          scan.nesting := by
        rw [statementsAfter_plain hfront]
        split
        · rfl
        · rw [List.foldl_cons, nestingBehind_plain hfront]
          rfl
      rw [ih behind hrest, endsInBrackets_cut hdepth rfl, statementsAfter_closing hfront hdepth,
        List.foldl_append, hfold, List.foldl_cons, nestingBehind_close,
        nesting_close (result?_eq_some.mp hbrace), hplain]

/-- **How many blocks a line leaves open.**  In either mode and whatever blocks are open, behind a
line that is not refused their number follows from the braces of the line outside of square
brackets, whether or not the lexer fails in it.  Each of them counts, but for those of headers that
take the place of an open table.  Braces in brackets do not count, but for one case: a line that
ends in an opening brace in brackets leaves one block more. -/
theorem height_behind_line {number : Nat} {line : List Char}
    (h : (scan.scanLine mode number line).outcome = .ok next) :
    next.blocks.length =
        (countedBraces scan.nesting (statementsAfter 0 [] (lineTokens line))).foldl heightBehind
          scan.blocks.length + (endsInBrackets (lineTokens line)).toNat ∧
    ((∀ statement ∈ statementsAfter 0 [] (lineTokens line),
        TableHeader.ofTokens? statement = none) →
      (next.blocks.length = (outerBraces 0 (lineTokens line)).foldl heightBehind
        scan.blocks.length ↔
        endsInBrackets (lineTokens line) = false)) := by
  obtain ⟨place, hline⟩ := lineStatements_of_scanLine h
  have hnesting := congrArg List.length (nesting_statements (lineTokens line) scan hline)
  rw [List.length_append, List.length_replicate, length_foldl_nestingBehind, nesting, nesting,
    List.length_map, List.length_map, Nat.add_comm] at hnesting
  refine ⟨hnesting, fun hheaders => ?_⟩
  rw [hnesting, countedBraces_of_no_header hheaders, flatMap_outerBraces]
  cases endsInBrackets (lineTokens line) <;> simp

/-- A scan behind the header of a table. -/
def behindHeader : Scan :=
  ({} : Scan).openTable { name := "t", aliasName := none }

/-- An index with braces in its settings, another table, and a note that ends in a brace. -/
def bracedIndex : List Char :=
  "indexes \x7b id [note: \x7b ] \x7d Table u \x7b Note: [ \x7b".toList

/-- Of its five braces the two of the index count.  That of the table does not, as this takes the
place of the one that is open, and the one in open brackets does. -/
theorem height_behind_line_of_index :
    ∃ next, (behindHeader.scanLine .lenient 2 bracedIndex).outcome = .ok next ∧
      next.blocks = [.skipped, .table 1] ∧
      outerBraces 0 (lineTokens bracedIndex) = [.leftBrace, .rightBrace, .leftBrace] ∧
      countedBraces behindHeader.nesting (statementsAfter 0 [] (lineTokens bracedIndex)) =
        [.leftBrace, .rightBrace] ∧
      endsInBrackets (lineTokens bracedIndex) = true ∧
      next.blocks.length = [Token.leftBrace,
        .rightBrace].foldl heightBehind behindHeader.blocks.length + 1 := by
  have hscanned : (behindHeader.scanLine .lenient 2 bracedIndex).result?.map (·.blocks) =
      some [.skipped, .table 1] := by
    decide +kernel
  have hbraces : outerBraces 0 (lineTokens bracedIndex) =
      [.leftBrace, .rightBrace, .leftBrace] := by
    decide +kernel
  have hcounted : countedBraces behindHeader.nesting
    (statementsAfter 0 [] (lineTokens bracedIndex)) =
      [.leftBrace, .rightBrace] := by
    decide +kernel
  have hends : endsInBrackets (lineTokens bracedIndex) = true := by
    decide +kernel
  obtain ⟨next, hnext, hblocks⟩ := Option.map_eq_some_iff.mp hscanned
  have houtcome := result?_eq_some.mp hnext
  obtain ⟨hheight, -⟩ := height_behind_line houtcome
  rw [hcounted, hends] at hheight
  exact ⟨next, houtcome, hblocks, hbraces, hcounted, hends, hheight⟩

/-- A table with a brace in an open bracket behind its header. -/
def bracketedBrace : List Char :=
  "Table t \x7b\n  Note: [ \x7b\n  id int\n\x7d".toList

/-- The brace in the note stands in brackets, but it opens a block, so that the column of the table
is skipped and the table is not closed. -/
theorem bracketed_brace_opens_block :
    Text.lines bracketedBrace =
      ["Table t \x7b".toList, "  Note: [ \x7b".toList, "  id int".toList, "\x7d".toList] ∧
    outerBraces 0 (lineTokens "  Note: [ \x7b".toList) = [] ∧
    behindHeader.blocks = [.table 0] ∧
    (behindHeader.scanLine .lenient 2 "  Note: [ \x7b".toList).result?.map (·.blocks) =
      some [.skipped, .table 0] ∧
    (Source.scan .lenient bracketedBrace).result?.map (·.blocks) = some [.table 0] ∧
    (parse .lenient bracketedBrace).result?.map (·.tables.map (·.columns)) = some [[]] := by
  decide +kernel

end Scan

end Dbml.Source
