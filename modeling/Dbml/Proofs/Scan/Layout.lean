import Mathlib.Data.List.Forall2
import Dbml.Proofs.Scan.BlockStack
import Dbml.Proofs.Token.Lexing

/-!
# The layout of a source

A source is cut into lines at its line feeds, and each line is trimmed before anything is made of
it.  So what a source says does not depend on the blanks around its lines, and lines that hold no
more than a comment say nothing; they only move the lines behind them further down, which shows in
errors.

* `scanLines_congr`: lines count for what they are when they are trimmed;
* `scanLine_filler`: a line without tokens changes nothing;
* `Renumbered`: two computations that come to the same, except that the lines which their errors
  name have other numbers.  It is kept by binds, so that numbers matter in `raise` alone
  (`statement_renumbered`, `scanLines_renumbered`).
-/

namespace Dbml

/-! ### Lines of a text -/

namespace Text

/-- A text is one line, or a line with a line feed and another text behind it. -/
theorem induction_on_lines {P : List Char → Prop} (text : List Char)
    (last : ∀ line, '\n' ∉ line → P line)
    (more : ∀ line rest, '\n' ∉ line → P rest → P (line ++ '\n' :: rest)) : P text := by
  by_cases hfeed : '\n' ∈ text
  · obtain ⟨line, rest, htext, hline⟩ := List.eq_append_cons_of_mem hfeed
    rw [htext]
    exact more line rest hline (induction_on_lines rest last more)
  · exact last text hfeed
termination_by text.length
decreasing_by
  rw [htext, List.length_append, List.length_cons]
  omega

theorem lines_of_not_mem {line : List Char} (h : '\n' ∉ line) : lines line = [line] :=
  List.splitOn_eq_singleton h

theorem lines_append {line : List Char} (h : '\n' ∉ line) (rest : List Char) :
    lines (line ++ '\n' :: rest) = line :: lines rest :=
  List.splitOn_append_cons_self_of_not_mem h rest

theorem lines_ne_nil (text : List Char) : lines text ≠ [] :=
  List.splitOn_ne_nil '\n' text

theorem not_mem_of_mem_lines {text line : List Char} (h : line ∈ lines text) : '\n' ∉ line := by
  induction text using induction_on_lines with
  | last only honly =>
      rw [lines_of_not_mem honly, List.mem_singleton] at h
      exact h ▸ honly
  | more first rest hfirst ih =>
      rw [lines_append hfirst, List.mem_cons] at h
      rcases h with rfl | hrest
      · exact hfirst
      · exact ih hrest

/-- The text whose lines are the given ones. -/
def ofLines (texts : List (List Char)) : List Char :=
  ['\n'].intercalate texts

theorem lines_ofLines {texts : List (List Char)} (h : ∀ text ∈ texts, '\n' ∉ text)
    (hne : texts ≠ []) :
    lines (ofLines texts) = texts :=
  List.splitOn_intercalate '\n' h hne

/-- The text with a carriage return in front of every line feed. -/
def withReturns (text : List Char) : List Char :=
  text.flatMap fun c => if c = '\n' then ['\r', '\n'] else [c]

theorem withReturns_of_not_mem {line : List Char} (h : '\n' ∉ line) : withReturns line = line := by
  induction line with
  | nil => rfl
  | cons c rest ih =>
      rw [List.mem_cons, not_or] at h
      rw [withReturns, List.flatMap_cons, if_neg (Ne.symm h.1)]
      exact congrArg (c :: ·) (ih h.2)

theorem withReturns_append {line : List Char} (h : '\n' ∉ line) (rest : List Char) :
    withReturns (line ++ '\n' :: rest) = (line ++ ['\r']) ++ '\n' :: withReturns rest := by
  have hline : line.flatMap (fun c => if c = '\n' then ['\r', '\n'] else [c]) = line :=
    withReturns_of_not_mem h
  rw [withReturns, List.flatMap_append, hline, List.flatMap_cons, if_pos rfl, List.append_assoc]
  rfl

/-! ### Trimmed lines -/

/-- The text is nothing but blanks. -/
def IsBlankText (text : List Char) : Prop :=
  ∀ c ∈ text, isBlank c = true

/-- Blanks around a text do not count. -/
theorem trim_surrounded {front back : List Char} (hfront : IsBlankText front)
    (hback : IsBlankText back) (text : List Char) : trim (front ++ text ++ back) = trim text := by
  have hreversed : ∀ c ∈ back.reverse, isBlank c = true :=
    fun c hc => hback c (List.mem_reverse.mp hc)
  rw [trim, trim, List.append_assoc, List.dropWhile_append_of_pos hfront, List.dropWhile_append]
  split
  · rename_i hblank
    have hnone : back.dropWhile isBlank = [] := by
      have hdropped : (back ++ []).dropWhile isBlank = [].dropWhile isBlank :=
        List.dropWhile_append_of_pos hback
      simpa using hdropped
    rw [hnone, List.isEmpty_iff.mp hblank]
  · rw [List.reverse_append, List.dropWhile_append_of_pos hreversed]

/-- A line that is another one but for the blanks at its two ends. -/
structure IsSpacedAs (line other : List Char) : Prop where
  oneLine : '\n' ∉ line
  blanks : ∃ text front back front' back', line = front ++ text ++ back ∧
    other = front' ++ text ++ back' ∧
    IsBlankText front ∧ IsBlankText back ∧ IsBlankText front' ∧ IsBlankText back'

theorem IsSpacedAs.self {line : List Char} (h : '\n' ∉ line) : IsSpacedAs line line :=
  ⟨h, line, [], [], [], [], by simp, by simp, List.forall_mem_nil _, List.forall_mem_nil _,
    List.forall_mem_nil _, List.forall_mem_nil _⟩

theorem IsSpacedAs.trim_eq {line other : List Char} (h : IsSpacedAs line other) :
    trim line = trim other := by
  obtain ⟨-, text, front, back, front', back', rfl, rfl, hfront, hback, hfront', hback'⟩ := h
  rw [trim_surrounded hfront hback, trim_surrounded hfront' hback']

theorem of_forall₂_isSpacedAs {texts others : List (List Char)}
    (h : List.Forall₂ IsSpacedAs texts others) :
    (∀ text ∈ texts, '\n' ∉ text) ∧ texts.map trim = others.map trim := by
  induction h with
  | nil => exact ⟨List.forall_mem_nil _, rfl⟩
  | cons hline _ ih =>
      refine ⟨List.forall_mem_cons.mpr ⟨hline.oneLine, ih.1⟩, ?_⟩
      rw [List.map_cons, List.map_cons, hline.trim_eq, ih.2]

/-- Carriage returns in front of line feeds are blanks at the ends of lines. -/
theorem map_trim_lines_withReturns (text : List Char) :
    (lines (withReturns text)).map trim = (lines text).map trim := by
  induction text using induction_on_lines with
  | last line hline => rw [withReturns_of_not_mem hline]
  | more line rest hline ih =>
      have hreturn : '\n' ∉ line ++ ['\r'] := by simp [hline]
      have htrim : trim (line ++ ['\r']) = trim line := by
        have hblank : IsBlankText ['\r'] := by
          intro c hc
          obtain rfl := List.mem_singleton.mp hc
          decide
        exact @trim_surrounded [] ['\r'] (List.forall_mem_nil _) hblank line
      rw [withReturns_append hline, lines_append hreturn, lines_append hline, List.map_cons,
        List.map_cons, htrim, ih]

/-- A line that says nothing: blanks, perhaps with a comment behind them. -/
structure IsFiller (line : List Char) : Prop where
  oneLine : '\n' ∉ line
  comment : ∃ blanks rest, line = blanks ++ rest ∧ IsBlankText blanks ∧
    (rest = [] ∨ ∃ comment, rest = '/' :: '/' :: comment)

/-- Trimming leaves the slashes of a comment. -/
theorem exists_trim_comment (comment : List Char) :
    ∃ rest, trim ('/' :: '/' :: comment) = '/' :: '/' :: rest := by
  have hslash : isBlank '/' = false := by decide
  have hfront : ('/' :: '/' :: comment).dropWhile isBlank = '/' :: '/' :: comment := by
    rw [List.dropWhile_cons, hslash, if_neg Bool.false_ne_true]
  rw [trim, hfront, List.reverse_cons, List.reverse_cons, List.append_assoc, List.dropWhile_append]
  split
  · exact ⟨[], by simp [hslash]⟩
  · exact ⟨(comment.reverse.dropWhile isBlank).reverse, by simp⟩

/-- A filler has no tokens. -/
theorem tokenize_trim_filler {line : List Char} (h : IsFiller line) :
    Lexer.tokenize (trim line) = ([.endOfText], none) := by
  obtain ⟨-, blanks, rest, rfl, hblanks, hrest⟩ := h
  have htrim : trim (blanks ++ rest) = trim rest := by
    have hnone := trim_surrounded hblanks (List.forall_mem_nil _) rest
    rwa [List.append_nil] at hnone
  apply Lexer.tokenize_of_skipBlanks
  rw [htrim]
  rcases hrest with rfl | ⟨comment, rfl⟩
  · rfl
  · obtain ⟨rest, hcomment⟩ := exists_trim_comment comment
    have hslash : isBlank '/' = false := by decide
    rw [hcomment, Lexer.skipBlanks, hslash]
    rfl

end Text

/-! ### Errors in other lines -/

/-- The error, with another number for the line that it names, if it names one. -/
def ParseError.mapLine (f : Nat → Nat) : ParseError → ParseError
  | .lex line error => .lex (f line) error
  | .unrecognized line text => .unrecognized (f line) text
  | .unclosedTable name => .unclosedTable name
  | .noSuchTable index => .noSuchTable index

namespace Source

open Parsing

variable {α β : Type} {f : Nat → Nat}

/-- The second computation comes to the same as the first, but for the number of the line that an
error names. -/
def Renumbered (f : Nat → Nat) (x y : Parsing α) : Prop :=
  y.outcome = x.outcome.mapError (.mapLine f)

namespace Renumbered

theorem pure (f : Nat → Nat) (a : α) : Renumbered f (Pure.pure a : Parsing α) (Pure.pure a) := rfl

/-- What follows does not undo it. -/
theorem bind {x y : Parsing α} {g h : α → Parsing β} (hfirst : Renumbered f x y)
    (hnext : ∀ a, Renumbered f (g a) (h a)) : Renumbered f (x >>= g) (y >>= h) := by
  unfold Renumbered at hfirst ⊢
  cases hx : x.outcome with
  | error error =>
      rw [hx] at hfirst
      rw [(bind_of_error hx g).1, (bind_of_error hfirst h).1]
      rfl
  | ok a =>
      rw [hx] at hfirst
      rw [(bind_of_ok hx g).1, (bind_of_ok hfirst h).1]
      exact hnext a

end Renumbered

/-- An objection names its line. -/
theorem raise_renumbered {objection other : Objection} (mode : Mode)
    (h : other.toError = objection.toError.mapLine f) :
    Renumbered f (raise mode objection) (raise mode other) := by
  cases mode with
  | strict => exact congrArg Except.error h
  | lenient => rfl

namespace Scan

variable {mode : Mode} {tokens : List Token} {scan : Scan}

/-! ### Statements -/

section Statement

variable (line : Nat) (text : String)

theorem unrecognized_renumbered :
    Renumbered f (scan.unrecognized mode ⟨line, text⟩) (scan.unrecognized mode ⟨f line, text⟩) :=
  (raise_renumbered mode rfl).bind fun _ => .pure f scan

theorem topLevelStatement_renumbered :
    Renumbered f (scan.topLevelStatement mode ⟨line, text⟩ tokens)
      (scan.topLevelStatement mode ⟨f line, text⟩ tokens) := by
  unfold topLevelStatement
  split
  · rfl
  · exact unrecognized_renumbered line text

theorem tableStatement_renumbered (index : Nat) :
    Renumbered f (scan.tableStatement mode ⟨line, text⟩ index tokens)
      (scan.tableStatement mode ⟨f line, text⟩ index tokens) := by
  unfold tableStatement
  split
  · split
    · rfl
    · exact unrecognized_renumbered line text
  · rename_i column rest hcolumn
    -- whether the table exists is asked behind the objection
    cases scan.tables[index]? with
    | none =>
        cases rest with
        | nil => rfl
        | cons token rest => exact (raise_renumbered mode rfl).bind fun _ => rfl
    | some table =>
        cases rest with
        | nil => rfl
        | cons token rest => exact (raise_renumbered mode rfl).bind fun _ => rfl

theorem projectStatement_renumbered :
    Renumbered f (scan.projectStatement mode ⟨line, text⟩ tokens)
      (scan.projectStatement mode ⟨f line, text⟩ tokens) := by
  unfold projectStatement
  split
  · rfl
  · rfl
  · exact unrecognized_renumbered line text

theorem closeBlock_renumbered :
    Renumbered f (scan.closeBlock mode ⟨line, text⟩) (scan.closeBlock mode ⟨f line, text⟩) := by
  unfold closeBlock
  split
  · exact unrecognized_renumbered line text
  · rfl

theorem openBlock_renumbered :
    Renumbered f (scan.openBlock ⟨line, text⟩ tokens) (scan.openBlock ⟨f line, text⟩ tokens) := by
  unfold openBlock
  split <;> rfl

/-- A statement comes to the same in another line. -/
theorem statement_renumbered (tokens : List Token) (scan : Scan) :
    Renumbered f (scan.statement mode ⟨line, text⟩ tokens)
      (scan.statement mode ⟨f line, text⟩ tokens) := by
  unfold statement
  split
  · exact closeBlock_renumbered line text
  · split
    · rfl
    · split
      · exact openBlock_renumbered line text
      · split
        · exact topLevelStatement_renumbered line text
        · exact tableStatement_renumbered line text _
        · exact projectStatement_renumbered line text
        · rfl

theorem lineStatements_renumbered (statements : List (List Token)) (scan : Scan) :
    Renumbered f (lineStatements mode ⟨line, text⟩ statements scan)
      (lineStatements mode ⟨f line, text⟩ statements scan) := by
  induction statements generalizing scan with
  | nil => exact .pure f scan
  | cons tokens rest ih => exact (statement_renumbered line text tokens scan).bind ih

end Statement

/-! ### Lines -/

theorem lexFailure_renumbered (line : Nat) (error : LexError) (scan : Scan) :
    Renumbered f (scan.lexFailure mode line error) (scan.lexFailure mode (f line) error) := by
  unfold lexFailure
  split
  · rfl
  · exact raise_renumbered mode rfl

theorem scanLine_renumbered (number : Nat) (line : List Char) (scan : Scan) :
    Renumbered f (scan.scanLine mode number line) (scan.scanLine mode (f number) line) := by
  cases htokens : Lexer.tokenize (Text.trim line) with
  | mk tokens failure =>
      cases failure with
      | none =>
          rw [scanLine_of_lexed htokens, scanLine_of_lexed htokens]
          exact lineStatements_renumbered _ _ _ scan
      | some error =>
          rw [scanLine_of_failure htokens, scanLine_of_failure htokens]
          exact (lexFailure_renumbered number error scan).bind fun _ =>
            lineStatements_renumbered _ _ _ scan

/-- Lines come to the same further up or down. -/
theorem scanLines_renumbered {number other : Nat} {lines : List (List Char)} (scan : Scan)
    (h : ∀ i < lines.length, f (number + i) = other + i) :
    Renumbered f (scanLines mode number lines scan) (scanLines mode other lines scan) := by
  induction lines generalizing number other scan with
  | nil => exact .pure f scan
  | cons line rest ih =>
      have hline : Renumbered f (scan.scanLine mode number line)
          (scan.scanLine mode other line) := by
        have hfirst : f number = other := h 0 (Nat.zero_lt_succ _)
        rw [← hfirst]
        exact scanLine_renumbered number line scan
      refine hline.bind fun next => ih next fun i hi => ?_
      have hlater := h (i + 1) (Nat.succ_lt_succ hi)
      rw [Nat.add_assoc, Nat.add_comm 1, hlater, Nat.add_assoc, Nat.add_comm 1]

/-- Lines count for what they are when they are trimmed. -/
theorem scanLines_congr {number : Nat} {lines others : List (List Char)} (scan : Scan)
    (h : lines.map Text.trim = others.map Text.trim) :
    scanLines mode number lines scan = scanLines mode number others scan := by
  induction lines generalizing number others scan with
  | nil =>
      obtain rfl := List.map_eq_nil_iff.mp h.symm
      rfl
  | cons line rest ih =>
      obtain ⟨other, more, rfl, hline, hrest⟩ := List.map_eq_cons_iff.mp h.symm
      have hscanned : scan.scanLine mode number line = scan.scanLine mode number other := by
        simp only [scanLine, hline]
      rw [scanLines, scanLines, hscanned]
      exact bind_congr fun next => ih next hrest.symm

/-- A filler changes nothing. -/
theorem scanLine_filler {line : List Char} (h : Text.IsFiller line) (number : Nat) (scan : Scan) :
    scan.scanLine mode number line = pure scan := by
  rw [scanLine_of_lexed (Text.tokenize_trim_filler h)]
  rfl

theorem scanLines_fillers {fillers : List (List Char)} (h : ∀ line ∈ fillers, Text.IsFiller line)
    (number : Nat) (scan : Scan) : scanLines mode number fillers scan = pure scan := by
  induction fillers generalizing number with
  | nil => rfl
  | cons line rest ih =>
      obtain ⟨hline, hrest⟩ := List.forall_mem_cons.mp h
      rw [scanLines, scanLine_filler hline, pure_bind, ih hrest]

/-- The end of the source names no line. -/
theorem finish_renumbered (scan : Scan) : Renumbered f (finish mode scan) (finish mode scan) := by
  rcases finish_cases mode scan with hpure | ⟨-, index, -, hthrow⟩
  · rw [hpure]
    rfl
  · rw [hthrow]
    rfl

end Scan

/-! ### Whole sources -/

/-- The number of a line when `count` lines more stand behind the first `before` ones. -/
def numberAmong (before count line : Nat) : Nat :=
  if line ≤ before then line else line + count

variable {mode : Mode} {source other : List Char}

theorem parse_renumbered (h : Renumbered f (scan mode source) (scan mode other)) :
    Renumbered f (parse mode source) (parse mode other) :=
  h.bind fun _ => rfl

/-- Fillers move the lines behind them further down and change nothing else. -/
theorem scan_fillers {before fillers after : List (List Char)}
    (hsource : Text.lines source = before ++ after)
    (hother : Text.lines other = before ++ (fillers ++ after))
    (hfillers : ∀ line ∈ fillers, Text.IsFiller line) :
    Renumbered (numberAmong before.length fillers.length) (scan mode source) (scan mode other) := by
  have hfront : ∀ i < before.length, numberAmong before.length fillers.length (1 + i) = 1 + i := by
    intro i hi
    exact if_pos (by omega)
  have hback : ∀ i < after.length,
    numberAmong before.length fillers.length (1 + before.length + i) =
      1 + before.length + fillers.length + i := by
    intro i _
    have hbehind : ¬ 1 + before.length + i ≤ before.length := by omega
    rw [numberAmong, if_neg hbehind]
    omega
  have hlines : Renumbered (numberAmong before.length fillers.length)
      (Scan.scanLines mode 1 (before ++ after) {})
      (Scan.scanLines mode 1 (before ++ (fillers ++ after)) {}) := by
    rw [Scan.scanLines_append_eq_bind, Scan.scanLines_append_eq_bind]
    refine (Scan.scanLines_renumbered {} hfront).bind fun next => ?_
    rw [Scan.scanLines_append_eq_bind, Scan.scanLines_fillers hfillers, pure_bind]
    exact Scan.scanLines_renumbered next hback
  rw [scan, scan, hsource, hother]
  exact hlines.bind fun last => Scan.finish_renumbered last

/-- Sources whose lines are the same when they are trimmed are the same. -/
theorem parse_congr_of_trim
    (h : (Text.lines source).map Text.trim = (Text.lines other).map Text.trim) :
    parse mode source = parse mode other := by
  rw [parse, parse, scan, scan, Scan.scanLines_congr {} h]

/-- **The layout of a source does not matter.**  In either mode, and whether it succeeds or fails,

* lines that hold nothing, or nothing but a comment, between any two lines of a source, in front of
  all of them or behind them leave what the parse comes to as it is, but that an error behind them
  names a line as many lines further down;
* other blanks at the ends of any of its lines leave the parse as it is;
* so do carriage returns in front of all line feeds. -/
theorem parse_of_other_layout (mode : Mode) (source : List Char) :
    (∀ before fillers after, Text.lines source = before ++ after →
      (∀ line ∈ fillers, Text.IsFiller line) →
      (parse mode (Text.ofLines (before ++ (fillers ++ after)))).outcome =
        (parse mode source).outcome.mapError
          (.mapLine (numberAmong before.length fillers.length))) ∧
    (∀ others, List.Forall₂ Text.IsSpacedAs others (Text.lines source) →
      parse mode (Text.ofLines others) = parse mode source) ∧
    parse mode (Text.withReturns source) = parse mode source := by
  refine ⟨?_, ?_, ?_⟩
  · intro before fillers after hsource hfillers
    have hfeed : ∀ line ∈ before ++ (fillers ++ after), '\n' ∉ line := by
      intro line hline
      have hstated : ∀ line ∈ before ++ after, '\n' ∉ line :=
        hsource ▸ fun line hline => Text.not_mem_of_mem_lines hline
      simp only [List.mem_append] at hline
      rcases hline with hbefore | hfiller | hafter
      · exact hstated line (List.mem_append_left _ hbefore)
      · exact (hfillers line hfiller).oneLine
      · exact hstated line (List.mem_append_right _ hafter)
    have hne : before ++ (fillers ++ after) ≠ [] := by
      intro hnil
      obtain ⟨rfl, hrest⟩ := List.append_eq_nil_iff.mp hnil
      obtain ⟨-, rfl⟩ := List.append_eq_nil_iff.mp hrest
      exact Text.lines_ne_nil source hsource
    exact parse_renumbered (scan_fillers hsource (Text.lines_ofLines hfeed hne) hfillers)
  · intro others hothers
    have hne : others ≠ [] := by
      rintro rfl
      exact Text.lines_ne_nil source (List.forall₂_nil_left_iff.mp hothers)
    obtain ⟨hfeed, htrim⟩ := Text.of_forall₂_isSpacedAs hothers
    apply parse_congr_of_trim
    rw [Text.lines_ofLines hfeed hne, htrim]
  · exact parse_congr_of_trim (Text.map_trim_lines_withReturns source)

/-- A table with a stray character behind its column. -/
def strayBehindColumn : List Char :=
  "Table t \x7b\n  id int @\n\x7d".toList

/-- With an empty line and a comment in front of the column its error is two lines further down, and
other blanks around the column leave it where it is. -/
theorem parse_of_other_layout_of_stray :
    Text.lines strayBehindColumn = ["Table t \x7b".toList] ++ ["  id int @".toList, "\x7d".toList] ∧
    (∀ line ∈ [[], "\t// key".toList], Text.IsFiller line) ∧
    (parse .strict (Text.ofLines
      (["Table t \x7b".toList] ++
        ([[], "\t// key".toList] ++ ["  id int @".toList, "\x7d".toList])))).outcome =
        .error (.lex 4 (.unexpectedChar '@')) ∧
    List.Forall₂ Text.IsSpacedAs ["Table t \x7b".toList, "id int @\t".toList, "\x7d".toList]
      (Text.lines strayBehindColumn) ∧
    (parse .strict (Text.ofLines ["Table t \x7b".toList, "id int @\t".toList,
      "\x7d".toList])).outcome =
      .error (.lex 2 (.unexpectedChar '@')) := by
  have hlines : Text.lines strayBehindColumn =
      ["Table t \x7b".toList] ++ ["  id int @".toList, "\x7d".toList] := by
    with_unfolding_all rfl
  have hfillers : ∀ line ∈ [[], "\t// key".toList], Text.IsFiller line := by
    intro line hline
    rcases List.mem_pair.mp hline with rfl | rfl
    · exact ⟨by decide, [], [], rfl, by simp [Text.IsBlankText], .inl rfl⟩
    · exact ⟨by decide, ['\t'], "// key".toList, by decide, by simp [Text.IsBlankText]; decide,
        .inr ⟨" key".toList, by decide⟩⟩
  have hspaced : List.Forall₂ Text.IsSpacedAs ["Table t \x7b".toList, "id int @\t".toList,
    "\x7d".toList]
      (Text.lines strayBehindColumn) := by
    have hcolumn : Text.IsSpacedAs "id int @\t".toList "  id int @".toList :=
      ⟨by decide, "id int @".toList, [], ['\t'], [' ', ' '], [], by decide, by decide,
        List.forall_mem_nil _, by simp [Text.IsBlankText]; decide, by
          simp [Text.IsBlankText]; decide,
        List.forall_mem_nil _⟩
    rw [hlines]
    exact .cons (.self (by decide)) (.cons hcolumn (.cons (.self (by decide)) .nil))
  have herror : (parse .strict strayBehindColumn).outcome =
      .error (.lex 2 (.unexpectedChar '@')) := by
    with_unfolding_all rfl
  obtain ⟨hmoved, hsame, -⟩ := parse_of_other_layout .strict strayBehindColumn
  refine ⟨hlines, hfillers, ?_, hspaced, ?_⟩
  · rw [hmoved _ _ _ hlines hfillers, herror]
    rfl
  · rw [hsame _ hspaced, herror]

end Source

end Dbml
