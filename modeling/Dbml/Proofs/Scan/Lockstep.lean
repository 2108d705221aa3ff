import Dbml.Proofs.Scan.BlockStack

/-!
# The strict and the lenient mode in lockstep

On one source the two modes do the same until the strict one fails.  It fails with an objection that
the lenient one reports next, or for a table that is left open.

## Strategy

`Lockstep strict lenient` relates two computations: they are equal, or the strict one fails with an
objection and the lenient one goes on behind the event of that objection.  It is kept by binds
(`Lockstep.bind`), because a strict computation that has failed is not continued, whereas the
lenient one only adds events.  The mode is inspected in `raise` alone, so that `lockstep_raise`
settles every statement and every line; only `finish` is left to the main statement.
-/

namespace Dbml.Source

open Parsing

variable {α β : Type}

/-- How the strict mode stands to the lenient one on the same input. -/
inductive Lockstep (strict lenient : Parsing α) : Prop
  /-- There is no objection. -/
  | agree (heq : lenient = strict)
  /-- The strict mode fails with an objection, the lenient one reports it and goes on. -/
  | part (objection : Objection) (later : List Event)
      (houtcome : strict.outcome = .error objection.toError)
      (hevents : lenient.events = strict.events ++ objection.toEvent :: later)

namespace Lockstep

theorem refl (x : Parsing α) : Lockstep x x :=
  .agree rfl

/-- Before they part, the two modes report the same events. -/
theorem events_prefix {strict lenient : Parsing α} (h : Lockstep strict lenient) :
    strict.events <+: lenient.events := by
  cases h with
  | agree heq => exact heq ▸ List.prefix_rfl
  | part objection later houtcome hevents => exact hevents ▸ List.prefix_append _ _

/-- What follows computations in lockstep in lockstep keeps them so. -/
theorem bind {strict lenient : Parsing α} {f g : α → Parsing β} (h : Lockstep strict lenient)
    (hnext : ∀ a, Lockstep (f a) (g a)) : Lockstep (strict >>= f) (lenient >>= g) := by
  cases h with
  | agree heq =>
      subst heq
      -- both modes fail here, or both go on from the same result
      cases hfirst : lenient.outcome with
      | error error =>
          refine .agree (ext ?_ ?_)
          · rw [(bind_of_error hfirst f).1, (bind_of_error hfirst g).1]
          · rw [(bind_of_error hfirst f).2, (bind_of_error hfirst g).2]
      | ok a =>
          obtain ⟨hf, hfevents⟩ := bind_of_ok hfirst f
          obtain ⟨hg, hgevents⟩ := bind_of_ok hfirst g
          cases hnext a with
          | agree heq => exact .agree (ext (by rw [hf, hg, heq]) (by rw [hfevents, hgevents, heq]))
          | part objection later houtcome hevents =>
              refine .part objection later (hf.trans houtcome) ?_
              rw [hfevents, hgevents, hevents, List.append_assoc]
  | part objection later houtcome hevents =>
      obtain ⟨hf, hfevents⟩ := bind_of_error houtcome f
      -- whatever the lenient mode does afterwards, its events begin with those so far
      obtain ⟨more, hmore⟩ : ∃ more, (lenient >>= g).events = lenient.events ++ more := by
        cases hlenient : lenient.outcome with
        | error error => exact ⟨[], by rw [(bind_of_error hlenient g).2, List.append_nil]⟩
        | ok a => exact ⟨(g a).events, (bind_of_ok hlenient g).2⟩
      refine .part objection (later ++ more) hf ?_
      rw [hmore, hevents, hfevents, List.append_assoc, List.cons_append]

end Lockstep

/-! ### Statements and lines -/

theorem lockstep_raise (objection : Objection) :
    Lockstep (raise .strict objection) (raise .lenient objection) :=
  .part objection [] rfl rfl

namespace Scan

variable (place : Place) (tokens : List Token) (scan : Scan)

theorem unrecognized_lockstep :
    Lockstep (scan.unrecognized .strict place) (scan.unrecognized .lenient place) :=
  (lockstep_raise _).bind fun _ => .refl _

theorem topLevelStatement_lockstep :
    Lockstep (scan.topLevelStatement .strict place tokens)
      (scan.topLevelStatement .lenient place tokens) := by
  unfold topLevelStatement
  split
  · exact .refl _
  · exact unrecognized_lockstep place scan

theorem tableStatement_lockstep (index : Nat) :
    Lockstep (scan.tableStatement .strict place index tokens)
      (scan.tableStatement .lenient place index tokens) := by
  unfold tableStatement
  split
  · split
    · exact .refl _
    · exact unrecognized_lockstep place scan
  · rename_i column rest hcolumn
    cases rest with
    | nil => exact .refl _
    | cons token rest =>
        exact (lockstep_raise (.trailing place.line place.text column.name)).bind fun _ => .refl _

theorem projectStatement_lockstep :
    Lockstep (scan.projectStatement .strict place tokens)
      (scan.projectStatement .lenient place tokens) := by
  unfold projectStatement
  split
  · exact .refl _
  · exact .refl _
  · exact unrecognized_lockstep place scan

theorem closeBlock_lockstep :
    Lockstep (scan.closeBlock .strict place) (scan.closeBlock .lenient place) := by
  unfold closeBlock
  split
  · exact unrecognized_lockstep place scan
  · exact .refl _

theorem statement_lockstep :
    Lockstep (scan.statement .strict place tokens) (scan.statement .lenient place tokens) := by
  unfold statement
  split
  · exact closeBlock_lockstep place scan
  · split
    · exact .refl _
    · split
      · exact .refl _
      · split
        · exact topLevelStatement_lockstep place tokens scan
        · exact tableStatement_lockstep place tokens scan _
        · exact projectStatement_lockstep place tokens scan
        · exact .refl _

theorem lineStatements_lockstep (statements : List (List Token)) (scan : Scan) :
    Lockstep (lineStatements .strict place statements scan)
      (lineStatements .lenient place statements scan) := by
  induction statements generalizing scan with
  | nil => exact .refl _
  | cons tokens rest ih => exact (statement_lockstep place tokens scan).bind ih

theorem lexFailure_lockstep (line : Nat) (error : LexError) :
    Lockstep (scan.lexFailure .strict line error) (scan.lexFailure .lenient line error) := by
  unfold lexFailure
  split
  · exact .refl _
  · exact lockstep_raise _

theorem scanLine_lockstep (number : Nat) (line : List Char) :
    Lockstep (scan.scanLine .strict number line) (scan.scanLine .lenient number line) := by
  cases htokens : Lexer.tokenize (Text.trim line) with
  | mk tokens failure =>
      cases failure with
      | none =>
          rw [scanLine_of_lexed htokens, scanLine_of_lexed htokens]
          exact lineStatements_lockstep _ _ scan
      | some error =>
          rw [scanLine_of_failure htokens, scanLine_of_failure htokens]
          exact (lexFailure_lockstep scan number error).bind fun _ =>
            lineStatements_lockstep _ _ scan

theorem scanLines_lockstep (number : Nat) (lines : List (List Char)) (scan : Scan) :
    Lockstep (scanLines .strict number lines scan) (scanLines .lenient number lines scan) := by
  induction lines generalizing number scan with
  | nil => exact .refl _
  | cons line rest ih => exact (scanLine_lockstep scan number line).bind (ih (number + 1))

end Scan

/-! ### Whole sources -/

/-- The lenient scan of a source comes to what the lines come to. -/
theorem scan_lenient_eq (source : List Char) :
    scan .lenient source = Scan.scanLines .lenient 1 (Text.lines source) {} := by
  have hfinish : Scan.finish .lenient = pure := by
    funext scan
    rcases Scan.finish_cases .lenient scan with hpure | ⟨hmode, -⟩
    · exact hpure
    · contradiction
  rw [scan, hfinish, bind_pure]

/-- Two modes that do not part on the lines of a source differ at its end at most: the strict one
may refuse a table that is left open. -/
theorem scan_lockstep (source : List Char) :
    Lockstep (scan .strict source) (scan .lenient source) ∨
      (∃ name, (scan .strict source).outcome = .error (.unclosedTable name)) ∧
        (scan .strict source).events = (scan .lenient source).events := by
  rw [scan_lenient_eq]
  cases Scan.scanLines_lockstep 1 (Text.lines source) {} with
  | part objection later houtcome hevents =>
      obtain ⟨hscan, hscanEvents⟩ := bind_of_error houtcome (Scan.finish .strict)
      exact .inl (.part objection later hscan (by rw [hevents, scan, hscanEvents]))
  | agree heq =>
      rw [heq]
      cases hlines : (Scan.scanLines .strict 1 (Text.lines source) {}).outcome with
      | error error =>
          obtain ⟨hscan, hscanEvents⟩ := bind_of_error hlines (Scan.finish .strict)
          exact .inl (.agree (ext (hlines.trans hscan.symm) hscanEvents.symm))
      | ok last =>
          -- only the end of the source is left, where the modes differ once more
          obtain ⟨hscan, hscanEvents⟩ := bind_of_ok hlines (Scan.finish .strict)
          rcases Scan.finish_cases .strict last with hpure | ⟨-, index, -, hthrow⟩
          · rw [hpure] at hscan hscanEvents
            refine .inl (.agree (ext (hlines.trans hscan.symm) ?_))
            rw [scan, hscanEvents, events_pure, List.append_nil]
          · rw [hthrow] at hscan hscanEvents
            refine .inr ⟨⟨_, hscan⟩, ?_⟩
            rw [scan, hscanEvents, events_throw, List.append_nil]

/-- A strict scan that succeeds is the lenient one. -/
theorem scan_lenient_of_strict_ok {source : List Char} {last : Scan}
    (h : (scan .strict source).outcome = .ok last) :
      scan .lenient source = scan .strict source := by
  rcases scan_lockstep source with hlockstep | ⟨⟨name, hname⟩, -⟩
  · cases hlockstep with
    | agree heq => exact heq
    | part objection later houtcome hevents =>
        rw [h] at houtcome
        cases houtcome
  · rw [h] at hname
    cases hname

/-- A strict scan fails with an objection that the lenient one reports next, or for a table that is
left open at the end of both. -/
theorem scan_strict_error {source : List Char} {error : ParseError}
    (h : (scan .strict source).outcome = .error error) :
    (∃ objection later, error = Objection.toError objection ∧
        (scan .lenient source).events =
          (scan .strict source).events ++ objection.toEvent :: later) ∨
      (∃ name, error = .unclosedTable name) ∧
        (scan .strict source).events = (scan .lenient source).events := by
  rcases scan_lockstep source with hlockstep | ⟨⟨name, hname⟩, hevents⟩
  · cases hlockstep with
    | agree heq =>
        obtain ⟨last, hlenient⟩ := Scan.scan_lenient_isOk source
        rw [heq, h] at hlenient
        cases hlenient
    | part objection later houtcome hevents =>
        rw [h] at houtcome
        cases houtcome
        exact .inl ⟨objection, later, rfl, hevents⟩
  · rw [h] at hname
    cases hname
    exact .inr ⟨⟨name, rfl⟩, hevents⟩

/-- **The strict and the lenient mode simulate each other.**  The events of the strict scan begin
those of the lenient one.  If the strict parse succeeds, the lenient one gives the same schema and
the same events; if it fails, the lenient mode reports next what the strict one fails for, except
that a table left open is the end of both scans. -/
theorem strict_and_lenient_in_lockstep (source : List Char) :
    (scan .strict source).events <+: (scan .lenient source).events ∧
    (∀ schema, (parse .strict source).outcome = .ok schema →
      (parse .lenient source).outcome = .ok schema ∧
        (parse .lenient source).events = (parse .strict source).events) ∧
    (∀ line error, (parse .strict source).outcome = .error (.lex line error) →
      ∃ later, (scan .lenient source).events =
        (scan .strict source).events ++ .restOfLineIgnored line error :: later) ∧
    (∀ line text, (parse .strict source).outcome = .error (.unrecognized line text) →
      ∃ event later,
        (event = .statementSkipped line text ∨
          ∃ column, event = .trailingTokensIgnored line text column) ∧
        (scan .lenient source).events = (scan .strict source).events ++ event :: later) ∧
    ∀ name, (parse .strict source).outcome = .error (.unclosedTable name) →
      (scan .strict source).events = (scan .lenient source).events := by
  refine ⟨?_, ?_, ?_, ?_, ?_⟩
  · rcases scan_lockstep source with hlockstep | ⟨-, hevents⟩
    · exact hlockstep.events_prefix
    · exact hevents ▸ List.prefix_rfl
  · intro schema h
    obtain ⟨last, hlast, -⟩ := parse_eq_ok h
    have hparse : parse .lenient source = parse .strict source := by
      rw [parse, parse, scan_lenient_of_strict_ok hlast]
    rw [hparse]
    exact ⟨h, rfl⟩
  · intro line error h
    rcases scan_strict_error (parse_eq_error h) with
      ⟨objection, later, herror, hevents⟩ | ⟨⟨name, herror⟩, -⟩
    · cases objection <;> cases herror
      exact ⟨later, hevents⟩
    · cases herror
  · intro line text h
    rcases scan_strict_error (parse_eq_error h) with
      ⟨objection, later, herror, hevents⟩ | ⟨⟨name, herror⟩, -⟩
    · cases objection <;> cases herror
      · exact ⟨_, later, .inl rfl, hevents⟩
      · exact ⟨_, later, .inr ⟨_, rfl⟩, hevents⟩
    · cases herror
  · intro name h
    rcases scan_strict_error (parse_eq_error h) with
      ⟨objection, later, herror, -⟩ | ⟨-, hevents⟩
    · cases objection <;> cases herror
    · exact hevents

end Dbml.Source
