import Dbml.Proofs.Scan.Lines
import Dbml.Proofs.Source.Braces
import Dbml.Proofs.Source.Statements

/-!
# One line or two

A line may hold several statements, one behind the other.  Behind a brace outside of square brackets
it may as well end: what follows there counts the same in a line of its own.

The tokens of the line are those of its two parts, because the first part is lexed to its end and
has no comment in it (`Lexer.tokenize_append`).  Behind the brace no statement is begun, and no
bracket is open, so that the statements of the line are those of its two parts too
(`statementsAfter_append`).  Nothing is asked of the second part: where it fails to be lexed, the
line has failed at the same place.
-/

namespace Dbml.Source

open Parsing Scan

variable {first second : List Char} {tokens : List Token} {brace : Token}

theorem statements_of_joined (hlexed : Lexer.tokenize first = (tokens ++ [brace, .endOfText], none))
    (hcomment : Lexer.hasComment none first = false) (hbrace : isBrace brace = true)
    (hdepth : openBrackets 0 tokens = 0) :
    statements (Lexer.tokenize (first ++ ' ' :: second)).1 =
      statements (Lexer.tokenize first).1 ++ statements (Lexer.tokenize second).1 := by
  have hfirst : Lexer.tokenize first = ((tokens ++ [brace]) ++ [.endOfText], none) := by
    rw [hlexed, List.append_assoc]
    rfl
  have hblank : ∀ c ∈ (' ' :: second).head?, Text.isBlank c = true := by
    intro c hc
    obtain rfl := Option.some.inj hc
    decide
  have hsecond : Lexer.tokenize (' ' :: second) = Lexer.tokenize second :=
    Lexer.tokenize_congr (Lexer.next_blank (by decide) second)
  obtain ⟨others, hothers⟩ := Lexer.exists_tokenize second
  rw [Lexer.tokenize_append hfirst hcomment hblank, hsecond, hfirst, hothers, statements,
    statements, statements]
  dsimp only
  rw [← List.append_assoc, withoutEnd_append, withoutEnd_append, withoutEnd_append,
    List.append_assoc, List.singleton_append]
  exact statementsAfter_append hdepth hbrace others

theorem scanLines_of_joined (hlexed : Lexer.tokenize first = (tokens ++ [brace, .endOfText], none))
    (hcomment : Lexer.hasComment none first = false) (hbrace : isBrace brace = true)
    (hdepth : openBrackets 0 tokens = 0) (number : Nat) (after : List (List Char)) (scan : Scan) :
    (scanLines .lenient number ((first ++ ' ' :: second) :: after) scan).result? =
      (scanLines .lenient number (first :: second :: after) scan).result? := by
  let place : Place := ⟨number, ""⟩
  rw [scanLines, scanLines, result?_bind, result?_bind, scanLine_lenient number _ place,
    scanLine_lenient number first place, statements_of_joined hlexed hcomment hbrace hdepth,
    lineStatements_append, Option.bind_assoc]
  apply Option.bind_congr
  intro next _
  rw [scanLines, result?_bind, scanLine_lenient (number + 1) second place]
  apply Option.bind_congr
  intro last _
  exact result?_scanLines_number (number + 1) (number + 1 + 1) after

/-- **One line or two.**  Wherever a line has a brace outside of square brackets and then a blank,
and no comment and nothing that is not lexed in front, the lenient mode makes the same schema of the
source when the line ends behind the brace and what follows is the next line, whatever that is. -/
theorem parse_of_split_line {source other : List Char} {before after : List (List Char)}
    (hsource : Text.lines source = before ++ (first ++ ' ' :: second) :: after)
    (hother : Text.lines other = before ++ first :: second :: after)
    (hcomment : Lexer.hasComment none first = false)
    (hlexed : Lexer.tokenize first = (tokens ++ [brace, .endOfText], none))
    (hbrace : isBrace brace = true) (hdepth : openBrackets 0 tokens = 0) :
    (parse .lenient source).outcome = (parse .lenient other).outcome := by
  apply parse_lenient_congr
  rw [scan_lenient_eq, scan_lenient_eq, hsource, hother, scanLines_append, scanLines_append]
  apply Option.bind_congr
  intro scan _
  exact scanLines_of_joined hlexed hcomment hbrace hdepth _ after scan

/-- A table in one line, with two slashes in the note of its column. -/
def writtenTable : List Char :=
  "Table a \x7b id int [note: 'a // b'] \x7d".toList

/-- A relation with a stray character and a comment behind it. -/
def strayRelation : List Char :=
  "Ref: a.id > b.id @ // key".toList

/-- A third line, with a table to which the relation leads. -/
def targetTable : List Char :=
  "Table b \x7b id int \x7d".toList

/-- The relation may stand behind the table or below it. -/
theorem parse_of_split_line_of_relation :
    Text.lines (Text.ofLines [writtenTable ++ ' ' :: strayRelation, targetTable]) =
      [] ++ (writtenTable ++ ' ' :: strayRelation) :: [targetTable] ∧
    Text.lines (Text.ofLines [writtenTable, strayRelation, targetTable]) =
      [] ++ writtenTable :: strayRelation :: [targetTable] ∧
    Lexer.hasComment none writtenTable = false ∧
    (∃ tokens, Lexer.tokenize writtenTable = (tokens ++ [.rightBrace, .endOfText], none) ∧
      openBrackets 0 tokens = 0) ∧
    isBrace .rightBrace = true ∧
    (parse .lenient (Text.ofLines [writtenTable ++ ' ' :: strayRelation, targetTable])).outcome =
      (parse .lenient (Text.ofLines [writtenTable, strayRelation, targetTable])).outcome := by
  have hjoined : Text.lines (Text.ofLines [writtenTable ++ ' ' :: strayRelation, targetTable]) =
      [] ++ (writtenTable ++ ' ' :: strayRelation) :: [targetTable] :=
    Text.lines_ofLines (by decide) (List.cons_ne_nil _ _)
  have hsplit : Text.lines (Text.ofLines [writtenTable, strayRelation, targetTable]) =
      [] ++ writtenTable :: strayRelation :: [targetTable] :=
    Text.lines_ofLines (by decide) (List.cons_ne_nil _ _)
  have hcomment : Lexer.hasComment none writtenTable = false := by
    decide +kernel
  have hlexed : Lexer.tokenize writtenTable =
      ([.ident "Table", .ident "a", .leftBrace, .ident "id", .ident "int", .leftBracket,
        .ident "note", .colon, .str "a // b", .rightBracket] ++ [.rightBrace, .endOfText],
        none) := by
    decide +kernel
  exact ⟨hjoined, hsplit, hcomment, ⟨_, hlexed, rfl⟩, rfl,
    parse_of_split_line hjoined hsplit hcomment hlexed rfl rfl⟩

end Dbml.Source
