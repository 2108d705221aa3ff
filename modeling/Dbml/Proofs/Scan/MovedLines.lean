import Dbml.Proofs.Scan.Lines
import Dbml.Proofs.Scan.StrictStatements

/-!
# Moving a relation

A relation counts where all of the source has been scanned, and in the order of the relations.  So
its line may stand in front of lines that state no relation or behind them, as long as both places
are outside of all blocks.

* `statement_outside`, `scanLine_outside`: outside of all blocks a line that begins none adds its
  relations to the scan, and does nothing else;
* `scanLines_of_moved`: lines that end outside of all blocks and state no relations come to the same
  in front of such a line and behind it, because they never look at the relations that are stated
  already (`scanLines_behind`);
* `parse_of_moved_relation`: the whole source.
-/

namespace Dbml.Source

open Parsing

/-- No statement of the line ends in an opening brace.  Where one does, it begins a block, and it is
not asked whether it is a relation. -/
def BeginsNoBlock (line : List Char) : Prop :=
  ∀ statement ∈ statements (Lexer.tokenize line).1, statement.getLast? ≠ some .leftBrace

/-- The relations that a line states outside of all blocks. -/
def lineRelations (line : List Char) : List NamedRelation :=
  (statements (Lexer.tokenize line).1).filterMap relation?

namespace Scan

variable {place : Place} {scan last : Scan} {tokens : List Token} {line : List Char}

/-- The scan with further relations. -/
def addRelations (scan : Scan) (relations : List NamedRelation) : Scan :=
  { scan with relations := scan.relations ++ relations }

@[simp] theorem addRelations_nil (scan : Scan) : scan.addRelations [] = scan := by
  rw [addRelations, List.append_nil]

/-! ### Outside of all blocks -/

theorem statement_outside (hblocks : scan.blocks = [])
    (hopens : tokens.getLast? ≠ some .leftBrace) :
    (scan.statement .lenient place tokens).result? =
      some (scan.addRelations (relation? tokens).toList) := by
  by_cases hclose : tokens = [.rightBrace]
  · have hrelation : relation? tokens = none := by
      rw [hclose]
      rfl
    rw [statement, if_pos hclose, closeBlock, hblocks, hrelation, Option.toList_none,
      addRelations_nil]
    rfl
  · rw [statement_at_top hblocks hclose hopens, topLevelStatement]
    cases relation? tokens with
    | none =>
        rw [Option.toList_none, addRelations_nil]
        rfl
    | some named => rfl

theorem lineStatements_outside {statements : List (List Token)} (hblocks : scan.blocks = [])
    (hopens : ∀ statement ∈ statements, statement.getLast? ≠ some .leftBrace) :
    (lineStatements .lenient place statements scan).result? =
      some (scan.addRelations (statements.filterMap relation?)) := by
  induction statements generalizing scan with
  | nil =>
      rw [List.filterMap_nil, addRelations_nil]
      rfl
  | cons tokens rest ih =>
      obtain ⟨hfirst, hothers⟩ := List.forall_mem_cons.mp hopens
      have hbehind : (scan.addRelations (relation? tokens).toList).blocks = [] := hblocks
      have hrelations : (tokens :: rest).filterMap relation? =
          (relation? tokens).toList ++ rest.filterMap relation? := by
        rw [List.filterMap_cons]
        cases relation? tokens <;> rfl
      rw [lineStatements, result?_bind, statement_outside hblocks hfirst, Option.bind_some,
        ih hbehind hothers, hrelations]
      simp only [addRelations, List.append_assoc]

theorem scanLine_outside (hblocks : scan.blocks = []) (hline : BeginsNoBlock line) (number : Nat) :
    (scan.scanLine .lenient number line).result? =
      some (scan.addRelations (lineRelations line)) := by
  rw [scanLine_lenient number line ⟨number, ""⟩]
  exact lineStatements_outside hblocks hline

/-! ### Other lines -/

/-- Lines that state no relations come to the same when more relations are stated before them. -/
theorem scanLines_addRelations {run : List (List Char)} {number : Nat}
    (hrun : (scanLines .lenient number run scan).result? = some last)
    (hrelations : last.relations = scan.relations) (relations : List NamedRelation) :
    (scanLines .lenient number run (scan.addRelations relations)).result? =
      some (last.addRelations relations) := by
  let bare : Scan := { scan with relations := [] }
  have hscan : scan = bare.behind scan.relations := by
    simp only [bare, behind, List.append_nil]
  have hmore : scan.addRelations relations = bare.behind (scan.relations ++ relations) := by
    simp only [bare, behind, addRelations, List.append_nil]
  rw [hscan, scanLines_behind] at hrun
  obtain ⟨found, hfound, rfl⟩ := Option.map_eq_some_iff.mp hrun
  -- the lines add nothing to the relations in front of them
  have hnone : found.relations = [] := List.append_right_eq_self.mp hrelations
  rw [hmore, scanLines_behind, hfound, Option.map_some]
  simp only [addRelations, behind, hnone, List.append_nil]

/-- Such lines may stand in front of a line that adds relations or behind it. -/
theorem scanLines_of_moved {run after : List (List Char)} {number : Nat}
    (hblocks : scan.blocks = [])
    (hline : BeginsNoBlock line) (hrun : (scanLines .lenient number run scan).result? = some last)
    (hclosed : last.blocks = []) (hrelations : last.relations = scan.relations) :
    (scanLines .lenient number (line :: (run ++ after)) scan).result? =
      (scanLines .lenient number (run ++ line :: after) scan).result? := by
  have hfront : (scanLines .lenient number (line :: (run ++ after)) scan).result? =
      (scanLines .lenient number after (last.addRelations (lineRelations line))).result? := by
    rw [scanLines, result?_bind, scanLine_outside hblocks hline, Option.bind_some,
      result?_scanLines_number (number + 1) number, scanLines_append,
        scanLines_addRelations hrun hrelations,
      Option.bind_some]
    apply result?_scanLines_number
  have hback : (scanLines .lenient number (run ++ line :: after) scan).result? =
      (scanLines .lenient number after (last.addRelations (lineRelations line))).result? := by
    rw [scanLines_append, hrun, Option.bind_some, scanLines, result?_bind,
      scanLine_outside hclosed hline, Option.bind_some]
    apply result?_scanLines_number
  rw [hfront, hback]

end Scan

open Scan

/-- **A relation may be moved.**  In the lenient mode a line with a relation outside of all blocks,
or any other that begins no block there, may stand in front of other lines or behind them, if these
begin and end outside of all blocks and add no relation.  They may open and close any blocks, and
hold what is not understood: the schema that the source comes to is the same. -/
theorem parse_of_moved_relation {source other line : List Char}
    {before run after : List (List Char)}
    {scan last : Scan} (hsource : Text.lines source = before ++ line :: (run ++ after))
    (hother : Text.lines other = before ++ (run ++ line :: after)) (hline : BeginsNoBlock line)
    (hbefore : (scanLines .lenient 1 before {}).outcome = .ok scan) (htop : scan.blocks = [])
    (hrun : (scanLines .lenient (1 + before.length) run scan).outcome = .ok last)
    (hclosed : last.blocks = []) (hrelations : last.relations = scan.relations) :
    (parse .lenient source).outcome = (parse .lenient other).outcome := by
  apply parse_lenient_congr
  rw [scan_lenient_eq, scan_lenient_eq, hsource, hother, scanLines_append, scanLines_append,
    result?_eq_some.mpr hbefore, Option.bind_some, Option.bind_some]
  exact scanLines_of_moved htop hline (result?_eq_some.mpr hrun) hclosed hrelations

/-- A relation that is cut short at a stray character. -/
def movedRelation : List Char :=
  "Ref key: a.id > b.id @".toList

/-- Two tables, with a block in one of them and an enumeration between them, a setting of the
project, and a line that is not understood. -/
def passedLines : List (List Char) :=
  ["Table a \x7b".toList, "  id int".toList, "  indexes \x7b id \x7d".toList, "\x7d".toList,
    "Enum e \x7b on off \x7d".toList, "what is this".toList,
      "Project p \x7b lang: 'en' \x7d".toList,
    "Table b \x7b id int \x7d".toList]

/-- The relation may stand in front of its tables or behind them. -/
theorem parse_of_moved_relation_of_tables :
    Text.lines (Text.ofLines ([] ++ movedRelation :: (passedLines ++ [[]]))) =
      [] ++ movedRelation :: (passedLines ++ [[]]) ∧
    Text.lines (Text.ofLines ([] ++ (passedLines ++ movedRelation :: [[]]))) =
      [] ++ (passedLines ++ movedRelation :: [[]]) ∧
    BeginsNoBlock movedRelation ∧ (lineRelations movedRelation).length = 1 ∧
    (∃ last, (scanLines .lenient 1 passedLines {}).outcome = .ok last ∧ last.blocks = [] ∧
      last.relations = [] ∧ last.tables.map (·.name) = ["a", "b"]) ∧
    (parse .lenient (Text.ofLines ([] ++ movedRelation :: (passedLines ++ [[]])))).outcome =
      (parse .lenient (Text.ofLines ([] ++ (passedLines ++ movedRelation :: [[]])))).outcome := by
  have hsource : Text.lines (Text.ofLines ([] ++ movedRelation :: (passedLines ++ [[]]))) =
      [] ++ movedRelation :: (passedLines ++ [[]]) :=
    Text.lines_ofLines (by decide) (List.cons_ne_nil _ _)
  have hother : Text.lines (Text.ofLines ([] ++ (passedLines ++ movedRelation :: [[]]))) =
      [] ++ (passedLines ++ movedRelation :: [[]]) :=
    Text.lines_ofLines (by decide) (List.cons_ne_nil _ _)
  have hline : BeginsNoBlock movedRelation := by
    unfold BeginsNoBlock
    decide +kernel
  have hstated : (lineRelations movedRelation).length = 1 := by
    decide +kernel
  have hscanned : (scanLines .lenient 1 passedLines {}).result?.map
      (fun last => (last.blocks, last.relations, last.tables.map (·.name))) =
        some ([], [], ["a", "b"]) := by
    decide +kernel
  obtain ⟨last, hlast, hfields⟩ := Option.map_eq_some_iff.mp hscanned
  obtain ⟨hclosed, hothers⟩ := Prod.mk.inj hfields
  obtain ⟨hrelations, htables⟩ := Prod.mk.inj hothers
  have hrun := result?_eq_some.mp hlast
  exact ⟨hsource, hother, hline, hstated, ⟨last, hrun, hclosed, hrelations, htables⟩,
    parse_of_moved_relation hsource hother hline rfl rfl hrun hclosed hrelations⟩

end Dbml.Source
