import Mathlib.Tactic.ByContra
import Dbml.Source.Parse

/-!
# What a parsing computation comes to

A computation is read through its two observations, `Parsing.outcome` and `Parsing.events`.  This
file says what they are for each way to put a computation together:

* `pure`, `throw`, `report` and a lifted `Traced` value, by simplification;
* a bind, by what its first part comes to (`bind_of_ok`, `bind_of_error`), and backwards from the
  outcome of the whole (`outcome_bind_eq_ok`, `outcome_bind_eq_error`);
* `parse`, by what the scan of the source comes to.

Later files open no other layer of `Parsing`.
-/

namespace Dbml

namespace Parsing

variable {α β : Type}

/-- Two computations with the same outcome and the same events are the same. -/
theorem ext {x y : Parsing α} (houtcome : x.outcome = y.outcome) (hevents : x.events = y.events) :
    x = y := by
  cases x
  cases y
  cases houtcome
  cases hevents
  rfl

/-! ### Computations without parts -/

@[simp] theorem outcome_pure (a : α) : (pure a : Parsing α).outcome = .ok a := rfl

@[simp] theorem events_pure (a : α) : (pure a : Parsing α).events = [] := rfl

@[simp] theorem outcome_throw (error : ParseError) :
    (throw error : Parsing α).outcome = .error error := rfl

@[simp] theorem events_throw (error : ParseError) : (throw error : Parsing α).events = [] := rfl

@[simp] theorem outcome_lift (x : Traced α) :
    Parsing.outcome (ExceptT.lift x) = .ok x.value := rfl

@[simp] theorem events_lift (x : Traced α) : Parsing.events (ExceptT.lift x) = x.events :=
  List.append_nil _

@[simp] theorem outcome_report (event : Event) : (Source.report event).outcome = .ok () := rfl

@[simp] theorem events_report (event : Event) : (Source.report event).events = [event] := rfl

/-! ### Binds -/

/-- Past a first part that succeeds, a bind goes on with its value. -/
theorem bind_of_ok {x : Parsing α} {a : α} (h : x.outcome = .ok a) (f : α → Parsing β) :
    (x >>= f).outcome = (f a).outcome ∧ (x >>= f).events = x.events ++ (f a).events := by
  obtain ⟨events, value⟩ := x
  cases h
  exact ⟨rfl, rfl⟩

/-- A first part that fails is all there is of a bind. -/
theorem bind_of_error {x : Parsing α} {error : ParseError} (h : x.outcome = .error error)
    (f : α → Parsing β) : (x >>= f).outcome = .error error ∧ (x >>= f).events = x.events := by
  obtain ⟨events, value⟩ := x
  cases h
  exact ⟨rfl, List.append_nil _⟩

theorem outcome_bind_eq_ok {x : Parsing α} {f : α → Parsing β} {b : β} :
    (x >>= f).outcome = .ok b ↔ ∃ a, x.outcome = .ok a ∧ (f a).outcome = .ok b := by
  cases hx : x.outcome with
  | error error => simp [(bind_of_error hx f).1]
  | ok a => simp [(bind_of_ok hx f).1]

theorem outcome_bind_eq_error {x : Parsing α} {f : α → Parsing β} {error : ParseError} :
    (x >>= f).outcome = .error error ↔
      x.outcome = .error error ∨ ∃ a, x.outcome = .ok a ∧ (f a).outcome = .error error := by
  cases hx : x.outcome with
  | error other => simp [(bind_of_error hx f).1]
  | ok a => simp [(bind_of_ok hx f).1]

/-! ### Objections -/

/-- An objection stops the strict mode. -/
@[simp] theorem outcome_raise_strict (objection : Source.Objection) :
    (Source.raise .strict objection).outcome = .error objection.toError := rfl

@[simp] theorem events_raise_strict (objection : Source.Objection) :
    (Source.raise .strict objection).events = [] := rfl

/-- The lenient mode reports an objection and goes on. -/
@[simp] theorem outcome_raise_lenient (objection : Source.Objection) :
    (Source.raise .lenient objection).outcome = .ok () := rfl

@[simp] theorem events_raise_lenient (objection : Source.Objection) :
    (Source.raise .lenient objection).events = [objection.toEvent] := rfl

end Parsing

/-! ### The two parts of a parse -/

open Parsing

variable {mode : Mode} {source : List Char}

/-- The schema of a scan before it is linked. -/
def Source.Scan.schema (scan : Source.Scan) : Schema where
  tables := scan.tables
  metadata := scan.metadata

/-- A source that is scanned is linked, and linking does not fail. -/
theorem parse_of_ok {scan : Source.Scan} (h : (Source.scan mode source).outcome = .ok scan) :
    (parse mode source).outcome = .ok (Linking.link scan.schema scan.relations).value ∧
      (parse mode source).events =
        (Source.scan mode source).events ++ (Linking.link scan.schema scan.relations).events := by
  obtain ⟨houtcome, hevents⟩ := bind_of_ok h fun scan =>
    ExceptT.lift (Linking.link scan.schema scan.relations)
  rw [outcome_lift] at houtcome
  rw [events_lift] at hevents
  exact ⟨houtcome, hevents⟩

/-- A source whose scan fails is not linked. -/
theorem parse_of_error {error : ParseError}
    (h : (Source.scan mode source).outcome = .error error) :
    (parse mode source).outcome = .error error ∧
      (parse mode source).events = (Source.scan mode source).events :=
  bind_of_error h _

theorem parse_eq_ok {schema : Schema} (h : (parse mode source).outcome = .ok schema) :
    ∃ scan, (Source.scan mode source).outcome = .ok scan ∧
      schema = (Linking.link scan.schema scan.relations).value := by
  obtain ⟨scan, hscan, hlink⟩ := outcome_bind_eq_ok.mp h
  cases hlink
  exact ⟨scan, hscan, rfl⟩

theorem parse_eq_error {error : ParseError} (h : (parse mode source).outcome = .error error) :
    (Source.scan mode source).outcome = .error error := by
  rcases outcome_bind_eq_error.mp h with hscan | ⟨scan, _, hlink⟩
  · exact hscan
  · cases hlink

end Dbml
