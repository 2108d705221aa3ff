import Dbml.Proofs.Scan.Layout
import Dbml.Proofs.Scan.Lockstep
import Dbml.Proofs.Scan.Replacement
import Dbml.Proofs.Token.Concatenation

/-!
# Lines and their statements

A line that is not refused comes to what its statements come to.  Blanks at its ends and its number
do not matter, and a failure of the lexer has only cut it short.  The lenient mode refuses nothing,
so that this holds of all of its lines.

* `lineStatements_of_scanLine`: a line of either mode that is not refused;
* `scanLine_lenient`: a line comes to what its statements come to;
* `result?_scanLines_number`: lines come to the same further up or down;
* `parse_lenient_congr`: sources that are scanned alike have the same schema.
-/

namespace Dbml.Source

open Parsing

theorem Renumbered.result?_eq {α : Type} {f : Nat → Nat} {x y : Parsing α} (h : Renumbered f x y) :
    y.result? = x.result? := by
  rw [result?, result?, h]
  cases x.outcome <;> rfl

namespace Scan

variable {mode : Mode} {scan : Scan}

theorem lineStatements_of_scanLine {next : Scan} {number : Nat} {line : List Char}
    (h : (scan.scanLine mode number line).outcome = .ok next) :
    ∃ place, (lineStatements mode place (statements (Lexer.tokenize line).1) scan).result? =
      some next := by
  have htrim : Lexer.tokenize (Text.trim line) =
    ((Lexer.tokenize line).1, (Lexer.tokenize line).2) :=
    Lexer.tokenize_trim line
  refine ⟨⟨number, String.ofList (Text.trim line)⟩, ?_⟩
  cases hfailure : (Lexer.tokenize line).2 with
  | none =>
      rw [hfailure] at htrim
      rw [scanLine_of_lexed htrim] at h
      exact result?_eq_some.mpr h
  | some error =>
      rw [hfailure] at htrim
      rw [scanLine_of_failure htrim] at h
      obtain ⟨-, -, hbehind⟩ := outcome_bind_eq_ok.mp h
      exact result?_eq_some.mpr hbehind

theorem result?_lexFailure_lenient (number : Nat) (error : LexError) :
    (scan.lexFailure .lenient number error).result? = some () := by
  rcases lexFailure_cases .lenient number error scan with ⟨hpassed, -⟩ | ⟨hstrict, -⟩
  · exact result?_eq_some.mpr hpassed
  · contradiction

/-- To the lenient mode a line is its statements. -/
theorem scanLine_lenient (number : Nat) (line : List Char) (place : Place) :
    (scan.scanLine .lenient number line).result? =
      (lineStatements .lenient place (statements (Lexer.tokenize line).1) scan).result? := by
  have htrim : Lexer.tokenize (Text.trim line) =
    ((Lexer.tokenize line).1, (Lexer.tokenize line).2) :=
    Lexer.tokenize_trim line
  cases hfailure : (Lexer.tokenize line).2 with
  | none =>
      rw [hfailure] at htrim
      rw [scanLine_of_lexed htrim]
      apply lineStatements_place
  | some error =>
      rw [hfailure] at htrim
      rw [scanLine_of_failure htrim, result?_bind, result?_lexFailure_lenient, Option.bind_some]
      apply lineStatements_place

/-- Lines come to the same further up or down, unless the source is refused. -/
theorem result?_scanLines_number (number other : Nat) (lines : List (List Char)) :
    (scanLines mode number lines scan).result? = (scanLines mode other lines scan).result? := by
  have hmoved : Renumbered (fun n => other + (n - number)) (scanLines mode number lines scan)
      (scanLines mode other lines scan) := by
    apply scanLines_renumbered
    intro i hi
    show other + (number + i - number) = other + i
    omega
  exact hmoved.result?_eq.symm

end Scan

theorem parse_lenient_congr {source other : List Char}
    (h : (scan .lenient source).result? = (scan .lenient other).result?) :
    (parse .lenient source).outcome = (parse .lenient other).outcome := by
  obtain ⟨last, hlast⟩ := Scan.scan_lenient_isOk source
  have hother : (scan .lenient other).outcome = .ok last := by
    apply result?_eq_some.mp
    rw [← h]
    exact result?_eq_some.mpr hlast
  rw [(parse_of_ok hlast).1, (parse_of_ok hother).1]

end Dbml.Source
