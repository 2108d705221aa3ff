import Dbml.Proofs.Scan.Step
import Dbml.Proofs.Source.Brackets

/-!
# Skipped blocks

A block that is neither a table nor the project is skipped.  Inside of it a statement only counts
for the brace that it is or ends in, so that the block is left where the braces of its content are
balanced, and nothing else has happened.

* `blockBrace?`: the brace for which a statement counts;
* `statement_of_begins`, `statement_of_close`, `statement_of_content`: the three kinds of statements
  in a skipped block;
* `placedStatements_of_balanced`: content with balanced braces, at any depth;
* `skipped_block_inert`: the whole block.
-/

namespace Dbml.Source

open Parsing

/-- The brace for which a statement counts: the closing one that it is, or the opening one in which
it ends. -/
def blockBrace? (statement : List Token) : Option Token :=
  if statement = [.rightBrace] then some .rightBrace
  else if statement.getLast? = some .leftBrace then some .leftBrace
  else none

namespace Scan

/-- The statement begins a block to skip: it ends in an opening brace, and is neither the header of
a table where a table may begin, nor that of the project outside of all blocks. -/
structure BeginsSkipped (scan : Scan) (statement : List Token) : Prop where
  opens : statement.getLast? = some .leftBrace
  noTable : scan.tableHeader? statement = none
  noProject : scan.blocks = [] → projectHeader? statement = none

/-- Statements one behind the other, each in its own place. -/
def placedStatements (mode : Mode) : List (Place × List Token) → Scan → Parsing Scan
  | [], scan => return scan
  | (place, tokens) :: rest, scan => do
    placedStatements mode rest (← scan.statement mode place tokens)

variable (mode : Mode) (place : Place) {scan : Scan} {tokens : List Token} {outer : List Block}

/-! ### One statement -/

theorem statement_of_begins (h : scan.BeginsSkipped tokens) :
    (scan.statement mode place tokens).outcome =
      .ok { scan with blocks := .skipped :: scan.blocks } := by
  obtain ⟨hopens, htable, hproject⟩ := h
  rw [statement, if_neg (ne_close_of_opens hopens), htable]
  dsimp only
  rw [if_pos hopens, openBlock]
  cases hblocks : scan.blocks with
  | nil =>
      rw [hproject hblocks]
      rfl
  | cons block outer => rfl

theorem begins_of_skipped (hblocks : scan.blocks = .skipped :: outer)
    (hopens : tokens.getLast? = some .leftBrace) : scan.BeginsSkipped tokens where
  opens := hopens
  noTable := by
    rw [tableHeader?, hblocks]
  noProject := by
    intro hnone
    rw [hblocks] at hnone
    contradiction

theorem statement_of_close {block : Block} (hblocks : scan.blocks = block :: outer) :
    (scan.statement mode place [.rightBrace]).outcome = .ok { scan with blocks := outer } := by
  rw [statement, if_pos rfl, closeBlock, hblocks]
  rfl

theorem statement_of_content (hblocks : scan.blocks = .skipped :: outer)
    (hclose : tokens ≠ [.rightBrace]) (hopens : tokens.getLast? ≠ some .leftBrace) :
    (scan.statement mode place tokens).outcome = .ok scan := by
  have htable : scan.tableHeader? tokens = none := by
    rw [tableHeader?, hblocks]
  rw [statement, if_neg hclose, htable]
  dsimp only
  rw [if_neg hopens, hblocks]
  rfl

/-! ### Whole blocks -/

/-- Behind `depth` blocks that were begun inside of it, a skipped block is left where the braces of
its content close them all, and then itself. -/
theorem placedStatements_of_balanced {content : List (Place × List Token)} {depth : Nat}
    (hblocks : scan.blocks = List.replicate (depth + 1) .skipped ++ outer)
    (hbalanced : Balanced .leftBrace .rightBrace depth (content.filterMap fun (_, tokens) =>
      blockBrace? tokens))
    (last : Place) :
    (placedStatements mode (content ++ [(last, [.rightBrace])]) scan).outcome =
      .ok { scan with blocks := outer } := by
  induction content generalizing depth scan with
  | nil =>
      obtain rfl : depth = 0 := balanced_nil.mp hbalanced
      exact (bind_of_ok (statement_of_close mode last hblocks) _).1
  | cons first content ih =>
      obtain ⟨place, tokens⟩ := first
      rw [List.filterMap_cons] at hbalanced
      dsimp only at hbalanced
      by_cases hclose : tokens = [.rightBrace]
      · have hbrace : blockBrace? tokens = some .rightBrace := if_pos hclose
        rw [hbrace] at hbalanced
        obtain ⟨behind, rfl, hothers⟩ := (balanced_cons_closing (by decide)).mp hbalanced
        subst hclose
        have hclosed := statement_of_close mode place hblocks
        exact (bind_of_ok hclosed _).1.trans (ih rfl hothers)
      · by_cases hopens : tokens.getLast? = some .leftBrace
        · have hbrace : blockBrace? tokens = some .leftBrace :=
            (if_neg hclose).trans (if_pos hopens)
          rw [hbrace] at hbalanced
          have hothers := (balanced_cons_opening (by decide)).mp hbalanced
          have hbegun := statement_of_begins mode place (begins_of_skipped hblocks hopens)
          have hdeeper : .skipped :: scan.blocks =
              List.replicate (depth + 1 + 1) .skipped ++ outer := by
            rw [hblocks]
            rfl
          exact (bind_of_ok hbegun _).1.trans (ih hdeeper hothers)
        · have hbrace : blockBrace? tokens = none := (if_neg hclose).trans (if_neg hopens)
          rw [hbrace] at hbalanced
          have hignored := statement_of_content mode place hblocks hclose hopens
          exact (bind_of_ok hignored _).1.trans (ih hblocks hbalanced)

/-- **Skipped blocks are inert.**  In either mode and whatever blocks are open, a statement that
begins a block to skip, any statements whose braces are balanced, and a closing brace leave the scan
as it is: its tables and settings, its relations and its blocks. -/
theorem skipped_block_inert {opening : List Token} {content : List (Place × List Token)}
    (hbegins : scan.BeginsSkipped opening)
    (hbalanced : Balanced .leftBrace .rightBrace 0 (content.filterMap fun (_, tokens) =>
      blockBrace? tokens))
    (first last : Place) :
    (placedStatements mode ((first, opening) :: content ++ [(last, [.rightBrace])]) scan).outcome =
      .ok scan := by
  have hentered : { scan with blocks := .skipped :: scan.blocks }.blocks =
      List.replicate (0 + 1) .skipped ++ scan.blocks := rfl
  have hcontent := placedStatements_of_balanced mode hentered hbalanced last
  have hbegun := statement_of_begins mode first hbegins
  exact (bind_of_ok hbegun _).1.trans hcontent

/-- A scan within a table, behind its first column. -/
def withinTable : Scan where
  tables := [{ name := "users", aliasName := none, columns := [{ name := "id", type := "int" }] }]
  blocks := [.table 0]

/-- What looks like a table, a relation and a project, in three lines. -/
def lookalikes : List (Place × List Token) :=
  [(⟨2, "Table t \x7b id int \x7d"⟩, [.ident "Table", .ident "t", .leftBrace]),
    (⟨2, "Table t \x7b id int \x7d"⟩, [.ident "id", .ident "int"]),
    (⟨2, "Table t \x7b id int \x7d"⟩, [.rightBrace]),
    (⟨3, "Ref: t.id > users.id"⟩,
      [.ident "Ref", .colon, .ident "t", .dot, .ident "id", .greater, .ident "users", .dot,
        .ident "id"]),
    (⟨4, "Project p \x7b"⟩, [.ident "Project", .ident "p", .leftBrace]),
    (⟨5, "\x7d"⟩, [.rightBrace])]

/-- Among the indexes of a table they are nothing of the kind. -/
theorem skipped_block_inert_of_lookalikes :
    withinTable.BeginsSkipped [.ident "indexes", .leftBrace] ∧
    Balanced .leftBrace .rightBrace 0 (lookalikes.filterMap fun (_, tokens) => blockBrace? tokens) ∧
    (placedStatements .strict
      ((⟨1, "indexes \x7b"⟩, [.ident "indexes", .leftBrace]) :: lookalikes ++
      [(⟨6, "\x7d"⟩, [.rightBrace])]) withinTable).outcome = .ok withinTable := by
  have hbegins : withinTable.BeginsSkipped [.ident "indexes", .leftBrace] :=
    ⟨rfl, by decide, by intro hnone; contradiction⟩
  have hbraces : lookalikes.filterMap (fun (_, tokens) => blockBrace? tokens) =
      [.leftBrace, .rightBrace, .leftBrace, .rightBrace] := by
    decide
  have hbalanced : Balanced .leftBrace .rightBrace 0
      (lookalikes.filterMap fun (_, tokens) => blockBrace? tokens) := by
    rw [hbraces]
    simp [balanced_cons_opening, balanced_cons_closing, balanced_nil]
  exact ⟨hbegins, hbalanced, skipped_block_inert .strict hbegins hbalanced _ _⟩

end Scan

end Dbml.Source
