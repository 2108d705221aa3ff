import Dbml.Proofs.Scan.Step

/-!
# Replacing a relation of a source

A scan collects relations and never looks at them again.  So two sources that differ in a relation
which is stated outside of all blocks come to scans that differ in this relation.

* `statement_behind`, `lineStatements_behind`, `scanLines_behind`: relations that were stated
  earlier stay in front of those that are stated later, and change nothing else; and what a
  statement comes to does not depend on its place, unless it is refused;
* `scan_of_hold`: the scan of a source in parts, before and behind one of its statements;
* `scan_of_relation`: what a relation adds to the scan.
-/

namespace Dbml

/-! ### Results -/

namespace Parsing

variable {α β : Type}

/-- What a computation comes to, if it does not fail. -/
def result? (x : Parsing α) : Option α :=
  x.outcome.toOption

@[simp] theorem result?_pure (a : α) : (pure a : Parsing α).result? = some a := rfl

@[simp] theorem result?_throw (error : ParseError) : (throw error : Parsing α).result? = none := rfl

@[simp] theorem result?_lift (x : Traced α) : Parsing.result? (ExceptT.lift x) = some x.value := rfl

theorem result?_eq_some {x : Parsing α} {a : α} : x.result? = some a ↔ x.outcome = .ok a := by
  rw [result?]
  cases x.outcome <;> simp [Except.toOption]

theorem result?_bind (x : Parsing α) (f : α → Parsing β) :
    (x >>= f).result? = x.result?.bind fun a => (f a).result? := by
  unfold result?
  cases hx : x.outcome with
  | error error =>
      rw [(bind_of_error hx f).1]
      rfl
  | ok a =>
      rw [(bind_of_ok hx f).1]
      rfl

end Parsing

namespace Source

open Parsing

namespace Scan

variable {mode : Mode} {scan : Scan} {earlier : List NamedRelation} {tokens : List Token}

/-! ### Earlier relations -/

/-- The scan with relations that were stated before its own. -/
def behind (scan : Scan) (earlier : List NamedRelation) : Scan :=
  { scan with relations := earlier ++ scan.relations }

theorem addRelation_behind (named : NamedRelation) :
    (scan.behind earlier).addRelation named = (scan.addRelation named).behind earlier := by
  simp only [behind, addRelation, List.append_assoc]

theorem addColumn_behind (index : Nat) (table : Table) (column : Column) :
    (scan.behind earlier).addColumn index table column =
      (scan.addColumn index table column).behind earlier := by
  simp only [behind, addColumn, List.append_assoc]

theorem openProject_behind (name : Option String) :
    (scan.behind earlier).openProject name = (scan.openProject name).behind earlier := by
  cases name <;> rfl

theorem unrecognized_behind (place other : Place) :
    ((scan.behind earlier).unrecognized mode place).result? =
      (scan.unrecognized mode other).result?.map (·.behind earlier) := by
  cases mode <;> rfl

theorem topLevelStatement_behind (place other : Place) :
    ((scan.behind earlier).topLevelStatement mode place tokens).result? =
      (scan.topLevelStatement mode other tokens).result?.map (·.behind earlier) := by
  unfold topLevelStatement
  cases relation? tokens with
  | none => exact unrecognized_behind place other
  | some named => exact congrArg some (addRelation_behind named)

theorem tableStatement_behind (place other : Place) (index : Nat) :
    ((scan.behind earlier).tableStatement mode place index tokens).result? =
      (scan.tableStatement mode other index tokens).result?.map (·.behind earlier) := by
  unfold tableStatement
  cases column? tokens with
  | none =>
      dsimp only
      split
      · rfl
      · exact unrecognized_behind place other
  | some found =>
      obtain ⟨column, rest⟩ := found
      have htable : (scan.behind earlier).tables[index]? = scan.tables[index]? := rfl
      -- what follows a column is refused in the strict mode, whatever its place
      cases rest <;> cases mode <;> cases hindex : scan.tables[index]? <;>
        simp only [htable, hindex, addColumn_behind] <;> rfl

theorem projectStatement_behind (place other : Place) :
    ((scan.behind earlier).projectStatement mode place tokens).result? =
      (scan.projectStatement mode other tokens).result?.map (·.behind earlier) := by
  unfold projectStatement
  split
  · rfl
  · rfl
  · exact unrecognized_behind place other

theorem closeBlock_behind (place other : Place) :
    ((scan.behind earlier).closeBlock mode place).result? =
      (scan.closeBlock mode other).result?.map (·.behind earlier) := by
  have hblocks : (scan.behind earlier).blocks = scan.blocks := rfl
  unfold closeBlock
  cases h : scan.blocks with
  | nil =>
      simp only [hblocks, h]
      exact unrecognized_behind place other
  | cons block outer =>
      simp only [hblocks, h]
      rfl

theorem openBlock_behind (place other : Place) :
    ((scan.behind earlier).openBlock place tokens).result? =
      (scan.openBlock other tokens).result?.map (·.behind earlier) := by
  have hblocks : (scan.behind earlier).blocks = scan.blocks := rfl
  unfold openBlock
  cases h : scan.blocks with
  | nil =>
      cases hheader : projectHeader? tokens with
      | none =>
          simp only [hblocks, h]
          rfl
      | some name =>
          simp only [hblocks, h]
          exact congrArg some (openProject_behind name)
  | cons block outer =>
      simp only [hblocks, h]
      rfl

/-- Earlier relations stay in front, and neither they nor the place change what a statement does. -/
theorem statement_behind (place other : Place) (tokens : List Token) :
    ((scan.behind earlier).statement mode place tokens).result? =
      (scan.statement mode other tokens).result?.map (·.behind earlier) := by
  have hheader : (scan.behind earlier).tableHeader? tokens = scan.tableHeader? tokens := rfl
  have hblocks : (scan.behind earlier).blocks = scan.blocks := rfl
  unfold statement
  split
  · exact closeBlock_behind place other
  · rw [hheader]
    cases scan.tableHeader? tokens with
    | some header => rfl
    | none =>
        dsimp only
        split
        · exact openBlock_behind place other
        · cases h : scan.blocks with
          | nil =>
              simp only [hblocks, h]
              exact topLevelStatement_behind place other
          | cons block outer =>
              simp only [hblocks, h]
              cases block with
              | table index => exact tableStatement_behind place other index
              | project => exact projectStatement_behind place other
              | skipped => rfl

theorem lineStatements_behind (place other : Place) (statements : List (List Token)) :
    (lineStatements mode place statements (scan.behind earlier)).result? =
      (lineStatements mode other statements scan).result?.map (·.behind earlier) := by
  induction statements generalizing scan with
  | nil => rfl
  | cons tokens rest ih =>
      rw [lineStatements, lineStatements, result?_bind, result?_bind, statement_behind place other]
      cases (scan.statement mode other tokens).result? with
      | none => rfl
      | some next => exact ih

/-- The place of a line does not change what its statements come to, unless one of them is
refused. -/
theorem lineStatements_place (place other : Place) (statements : List (List Token)) :
    (lineStatements mode place statements scan).result? =
      (lineStatements mode other statements scan).result? := by
  have hsame : (lineStatements mode place statements (scan.behind [])).result? =
      (lineStatements mode other statements scan).result?.map id :=
    lineStatements_behind place other statements
  rwa [Option.map_id] at hsame

theorem lineStatements_append (place : Place) (first second : List (List Token)) :
    (lineStatements mode place (first ++ second) scan).result? =
      (lineStatements mode place first scan).result?.bind fun scan =>
        (lineStatements mode place second scan).result? := by
  induction first generalizing scan with
  | nil => rfl
  | cons tokens rest ih =>
      rw [List.cons_append, lineStatements, lineStatements, result?_bind, result?_bind,
        Option.bind_assoc]
      exact Option.bind_congr fun next _ => ih

theorem scanLine_behind (number : Nat) (line : List Char) :
    ((scan.behind earlier).scanLine mode number line).result? =
      (scan.scanLine mode number line).result?.map (·.behind earlier) := by
  cases htokens : Lexer.tokenize (Text.trim line) with
  | mk tokens failure =>
      cases failure with
      | none =>
          rw [scanLine_of_lexed htokens, scanLine_of_lexed htokens]
          exact lineStatements_behind _ _ _
      | some error =>
          have hfailure : (scan.behind earlier).lexFailure mode number error =
              scan.lexFailure mode number error := rfl
          rw [scanLine_of_failure htokens, scanLine_of_failure htokens, result?_bind, result?_bind,
            hfailure]
          cases (scan.lexFailure mode number error).result? with
          | none => rfl
          | some _ => exact lineStatements_behind _ _ _

theorem scanLines_behind (number : Nat) (lines : List (List Char)) :
    (scanLines mode number lines (scan.behind earlier)).result? =
      (scanLines mode number lines scan).result?.map (·.behind earlier) := by
  induction lines generalizing number scan with
  | nil => rfl
  | cons line rest ih =>
      rw [scanLines, scanLines, result?_bind, result?_bind, scanLine_behind]
      cases (scan.scanLine mode number line).result? with
      | none => rfl
      | some next => exact ih (number + 1)

theorem scanLines_append (number : Nat) (first second : List (List Char)) :
    (scanLines mode number (first ++ second) scan).result? =
      (scanLines mode number first scan).result?.bind fun scan =>
        (scanLines mode (number + first.length) second scan).result? := by
  rw [scanLines_append_eq_bind, result?_bind]

theorem finish_behind :
    (finish mode (scan.behind earlier)).result? =
      (finish mode scan).result?.map (·.behind earlier) := by
  have hopen : (scan.behind earlier).openTable? = scan.openTable? := rfl
  unfold finish
  rw [hopen]
  cases mode <;> cases scan.openTable? <;> rfl

end Scan

/-! ### A source around one of its statements -/

/-- What a source has around one of its statements: the lines before and behind that of the
statement, the statements before and behind it in its line, and the failure in which its line ends,
if it does. -/
structure Surroundings where
  before : List (List Char)
  front : List (List Token)
  back : List (List Token)
  failure : Option LexError
  after : List (List Char)

namespace Surroundings

open Scan

variable {mode : Mode} {around : Surroundings} {statement : List Token} {source : List Char}

/-- The source has the statement in these surroundings. -/
def Hold (around : Surroundings) (statement : List Token) (source : List Char) : Prop :=
  ∃ line tokens, Text.lines source = around.before ++ line :: around.after ∧
    Lexer.tokenize (Text.trim line) = (tokens, around.failure) ∧
    statements tokens = around.front ++ statement :: around.back

/-- The place of the statement, but for the text of its line. -/
def place (around : Surroundings) : Place where
  line := around.before.length + 1
  text := ""

/-- The failure of the line, if there is one, is passed over. -/
def passFailure? (around : Surroundings) (mode : Mode) (scan : Scan) : Option Unit :=
  match around.failure with
  | some error => (scan.lexFailure mode around.place.line error).result?
  | none => some ()

/-- The scan that the statement meets, if the source is not refused before. -/
def scanBefore? (around : Surroundings) (mode : Mode) : Option Scan :=
  (scanLines mode 1 around.before {}).result?.bind fun scan =>
    (around.passFailure? mode scan).bind fun _ =>
      (lineStatements mode around.place around.front scan).result?

/-- What a scan comes to behind the statement, if the source is not refused there. -/
def scanBehind? (around : Surroundings) (mode : Mode) (scan : Scan) : Option Scan :=
  (lineStatements mode around.place around.back scan).result?.bind fun scan =>
    (scanLines mode (around.place.line + 1) around.after scan).result?.bind fun scan =>
      (finish mode scan).result?

/-- The statement is outside of all blocks, if it is reached. -/
def IsTopLevel (around : Surroundings) (mode : Mode) : Prop :=
  ∀ scan, around.scanBefore? mode = some scan → scan.blocks = []

theorem scanBehind?_behind (earlier : List NamedRelation) (scan : Scan) :
    around.scanBehind? mode (scan.behind earlier) =
      (around.scanBehind? mode scan).map (·.behind earlier) := by
  unfold scanBehind?
  rw [lineStatements_behind around.place around.place]
  cases (lineStatements mode around.place around.back scan).result? with
  | none => rfl
  | some scan =>
      simp only [Option.map_some, Option.bind_some]
      rw [scanLines_behind]
      cases (scanLines mode (around.place.line + 1) around.after scan).result? with
      | none => rfl
      | some scan => exact finish_behind

/-- The line of the statement, taken apart. -/
theorem scanLine_around {line : List Char} {tokens : List Token}
    (htokens : Lexer.tokenize (Text.trim line) = (tokens, around.failure))
    (hstatements : statements tokens = around.front ++ statement :: around.back) (scan : Scan) :
    (scan.scanLine mode around.place.line line).result? =
      (around.passFailure? mode scan).bind fun _ =>
        (lineStatements mode around.place around.front scan).result?.bind fun scan =>
          (scan.statement mode around.place statement).result?.bind fun scan =>
            (lineStatements mode around.place around.back scan).result? := by
  have hline : ∀ scan place,
      (lineStatements mode place (statements tokens) scan).result? =
        (lineStatements mode around.place around.front scan).result?.bind fun scan =>
          (scan.statement mode around.place statement).result?.bind fun scan =>
            (lineStatements mode around.place around.back scan).result? := by
    intro scan place
    rw [lineStatements_place place around.place, hstatements, lineStatements_append]
    refine Option.bind_congr fun scan _ => ?_
    rw [lineStatements, result?_bind]
  unfold passFailure?
  cases hfailure : around.failure with
  | none =>
      rw [scanLine_of_lexed (hfailure ▸ htokens)]
      exact hline scan _
  | some error =>
      rw [scanLine_of_failure (hfailure ▸ htokens), result?_bind]
      exact Option.bind_congr fun _ _ => hline scan _

/-- The scan of a source, taken apart at the statement. -/
theorem scan_of_hold (h : around.Hold statement source) :
    (Source.scan mode source).result? =
      (around.scanBefore? mode).bind fun scan =>
        (scan.statement mode around.place statement).result?.bind (around.scanBehind? mode) := by
  obtain ⟨line, tokens, hlines, htokens, hstatements⟩ := h
  have hplace : 1 + around.before.length = around.place.line := Nat.add_comm _ _
  rw [Source.scan, result?_bind, hlines, scanLines_append, hplace, scanBefore?]
  simp only [Option.bind_assoc]
  refine Option.bind_congr fun scan _ => ?_
  rw [scanLines, result?_bind, scanLine_around htokens hstatements]
  simp only [Option.bind_assoc]
  rfl

/-! ### A relation -/

/-- The statement is that of a relation. -/
def StatesRelation (statement : List Token) (named : NamedRelation) : Prop :=
  relation? statement = some named ∧ statement.getLast? ≠ some .leftBrace

/-- The relations that the source states before the statement, and what its scan comes to without
them and without the statement. -/
def rest? (around : Surroundings) (mode : Mode) : Option (List NamedRelation × Scan) :=
  (around.scanBefore? mode).bind fun scan =>
    (around.scanBehind? mode { scan with relations := [] }).map (scan.relations, ·)

/-- No keyword is two. -/
theorem isKeyword_eq_false {first second : String} {token : Token}
    (hne : first.toList.map Char.toLower ≠ second.toList.map Char.toLower)
    (h : token.isKeyword first = true) : token.isKeyword second = false := by
  cases token with
  | ident text =>
      have hfirst : text.toList.map Char.toLower = first.toList.map Char.toLower := beq_iff_eq.mp h
      refine beq_eq_false_iff_ne.mpr fun hsecond => ?_
      exact hne (hfirst.symm.trans hsecond)
  | _ => contradiction

/-- A relation begins with a keyword of its own. -/
theorem isKeyword_of_relation? {named : NamedRelation} (h : relation? statement = some named) :
    ∃ keyword tokens, statement = keyword :: tokens ∧ keyword.isKeyword "ref" = true := by
  cases statement with
  | nil => contradiction
  | cons keyword tokens =>
      refine ⟨keyword, tokens, rfl, ?_⟩
      by_contra hkeyword
      rw [relation?, if_neg hkeyword] at h
      contradiction

theorem statement_of_relation {named : NamedRelation} {scan : Scan}
    (h : StatesRelation statement named) (hblocks : scan.blocks = []) (place : Place) :
    (scan.statement mode place statement).result? = some (scan.addRelation named) := by
  obtain ⟨hrelation, hopen⟩ := h
  obtain ⟨keyword, tokens, rfl, hkeyword⟩ := isKeyword_of_relation? hrelation
  have hclose : keyword :: tokens ≠ [.rightBrace] := by
    rintro ⟨⟩
    contradiction
  have hheader : scan.tableHeader? (keyword :: tokens) = none := by
    have htable : keyword.isKeyword "table" = false := isKeyword_eq_false (by decide) hkeyword
    rw [tableHeader?, hblocks, TableHeader.ofTokens?, htable]
    rfl
  rw [Scan.statement, if_neg hclose, hheader]
  simp only [if_neg hopen, hblocks, topLevelStatement, hrelation]
  rfl

/-- A relation outside of all blocks comes behind those that are stated before it, and nothing else
depends on it. -/
theorem scan_of_relation {named : NamedRelation} (h : around.Hold statement source)
    (htop : around.IsTopLevel mode) (hstates : StatesRelation statement named) :
    (Source.scan mode source).result? =
      (around.rest? mode).map fun (earlier, scan) =>
        { scan with relations := earlier ++ named :: scan.relations } := by
  rw [scan_of_hold h, rest?, Option.map_bind]
  refine Option.bind_congr fun scan hscan => ?_
  have hadded : scan.addRelation named =
      ({ scan with relations := [] } : Scan).behind (scan.relations ++ [named]) := by
    simp only [addRelation, behind, List.append_nil]
  rw [statement_of_relation hstates (htop scan hscan), Option.bind_some, hadded, scanBehind?_behind,
    Function.comp_apply, Option.map_map]
  refine Option.map_congr fun last _ => ?_
  simp only [behind, Function.comp_apply, List.append_assoc, List.singleton_append]

end Surroundings

end Source

end Dbml
