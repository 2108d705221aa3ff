import Dbml.Source.Column
import Dbml.Proofs.Token.Writing

/-!
# Writing tables

A table is written as a header, a line for each of its columns and a closing brace.  A column has
its name and its type in quotes and one setting for each property that differs from the default.
This file says what is written and what it can be written for, and reads the settings back:

* integers, defaults and references are read as what they were written for
  (`defaultValue?_defaultTokens`, `target?_referenceTokens`);
* one setting sets one property, so all of them together give the column (`foldl_columnSettings`).
-/

namespace Dbml

/-! ### Integers -/

namespace Decimal

theorem isDigit_of_mem_toDigits {n : Nat} {c : Char} (h : c ∈ toDigits n) : c.isDigit = true :=
  Nat.isDigit_of_mem_toDigits (by decide) (by decide) h

/-- Digits have no sign in front. -/
theorem readSign_toDigits (n : Nat) : readSign (toDigits n) = (false, toDigits n) := by
  cases hdigits : toDigits n with
  | nil => rfl
  | cons c rest =>
      have hc : c.isDigit = true := isDigit_of_mem_toDigits (n := n) (by simp [hdigits])
      unfold readSign
      split
      · exact absurd hc (by simp_all)
      · exact absurd hc (by simp_all)
      · rfl

/-- The text of an integer is read as that integer. -/
theorem readInt?_intText (n : Int) : readInt? (intText n) = some n := by
  have hne : (toDigits n.natAbs).isEmpty = false := by simp [toDigits]
  have hall : (toDigits n.natAbs).all Char.isDigit = true :=
    List.all_eq_true.mpr fun c hc => isDigit_of_mem_toDigits hc
  unfold intText
  split
  · have hsign : readSign ('-' :: toDigits n.natAbs) = (true, toDigits n.natAbs) := rfl
    have habs : -(n.natAbs : Int) = n := by omega
    simp only [readInt?, hsign, hne, hall, ofDigits_toDigits]
    exact congrArg some habs
  · have habs : (n.natAbs : Int) = n := by omega
    simp only [readInt?, readSign_toDigits, hne, hall, ofDigits_toDigits]
    exact congrArg some habs

end Decimal

namespace Source

/-! ### What is written -/

/-- The words of a setting, if it is set. -/
def flagSetting (isSet : Bool) (words : List String) : List (List Token) :=
  if isSet then [words.map Token.ident] else []

/-- The words that say whether a column may be null. -/
def nullableSetting : Option Bool → List (List Token)
  | none => []
  | some true => [[.ident "null"]]
  | some false => [[.ident "not", .ident "null"]]

/-- A setting of the form `key: value`, if there is a value. -/
def keyedSetting (key : String) (value : Option (List Token)) : List (List Token) :=
  (value.map fun tokens => .ident key :: .colon :: tokens).toList

/-- A number, whose sign is a token of its own. -/
def numberTokens (n : Json.Number) : List Token :=
  match n.text with
  | '-' :: digits => [.dash, .num (String.ofList digits)]
  | digits => [.num (String.ofList digits)]

/-- A default value. -/
def defaultTokens : DefaultValue → List Token
  | .bool true => [.ident "true"]
  | .bool false => [.ident "false"]
  | .number n => numberTokens n
  | .text text => [.str text]

/-- An operator. -/
def opTokens : RelationOp → List Token
  | .oneToOne => [.dash]
  | .oneToMany => [.less]
  | .manyToOne => [.greater]
  | .manyToMany => [.less, .greater]

/-- What a column refers to, behind the operator for the cardinality. -/
def referenceTokens (r : Reference) : List Token :=
  opTokens (r.cardinality.getD .manyToOne).op ++ [.str r.table, .dot, .str r.column]

/-- The settings of a column. -/
def columnSettings (column : Column) : List (List Token) :=
  flagSetting column.primaryKey ["pk"] ++ flagSetting column.unique ["unique"] ++
    nullableSetting column.nullable ++ flagSetting column.increment ["increment"] ++
    keyedSetting "note" (column.note.map fun note => [.str note]) ++
    keyedSetting "default" (column.default.map defaultTokens) ++
    keyedSetting "ref" (column.reference.map referenceTokens)

/-- A list of settings in square brackets, and nothing when there are none. -/
def settingsTokens (settings : List (List Token)) : List Token :=
  if settings.isEmpty then []
  else .leftBracket :: ([.comma].intercalate settings ++ [.rightBracket])

/-- The line of a column. -/
def columnTokens (column : Column) : List Token :=
  .str column.name :: .str column.type :: settingsTokens (columnSettings column)

/-- The line with which a table begins. -/
def headerTokens (table : Table) : List Token :=
  match table.aliasName with
  | none => [.ident "Table", .str table.name, .leftBrace]
  | some aliasName =>
    [.ident "Table", .str table.name, .ident "as", .str aliasName, .leftBrace]

/-- The lines of a table. -/
def tableLines (table : Table) : List (List Token) :=
  headerTokens table :: (table.columns.map columnTokens ++ [[.rightBrace]])

/-- The source that says what the tables are, with a line feed behind each of its lines. -/
def writeTables (tables : List Table) : List Char :=
  ((tables.flatMap tableLines).map Token.write).flatMap (· ++ ['\n'])

/-- The layout of a source. -/
example :
    String.ofList (writeTables
      [{ name := "a's"
         aliasName := some "A"
         columns :=
          [{ name := "id", type := "int", primaryKey := true
             default := some (.number (.int (-5))) },
           { name := "b", type := "text", nullable := some false
             reference := some ⟨"t", "c", some .oneToMany, none, none⟩ }] }]) =
      "Table 'a\\'s' as 'A' \x7b\n'id' 'int' [pk, default: -5]\n" ++
        "'b' 'text' [not null, ref: < 't'.'c']\n\x7d\n" := by
  rfl

/-! ### What can be written -/

/-- A default that can be stated: an integer of 64 bits, or a text that is not empty. -/
def IsWritableDefault : DefaultValue → Prop
  | .bool _ => True
  | .number (.int n) => minInteger ≤ n ∧ n ≤ maxInteger
  | .number (.float _) => False
  | .text text => text ≠ ""

/-- A reference that the settings of a column can state and that needs no junction table: its
cardinality is given, and no action is. -/
structure IsWritableReference (r : Reference) : Prop where
  cardinality : ∃ c, r.cardinality = some c ∧ c.isManyToMany = false
  onUpdate : r.onUpdate = none
  onDelete : r.onDelete = none

/-- A column that a line of a source can state. -/
structure IsWritableColumn (column : Column) : Prop where
  note : column.note ≠ some ""
  default : ∀ value ∈ column.default, IsWritableDefault value
  reference : ∀ r ∈ column.reference, IsWritableReference r

/-! ### Reading values -/

/-- The number tokens of an integer: its digits, behind a dash if it is negative. -/
theorem numberTokens_int (n : Int) :
    numberTokens (.int n) =
      (if n < 0 then [.dash] else []) ++ [.num (String.ofList (Decimal.toDigits n.natAbs))] := by
  have htext : (Json.Number.int n).text = Decimal.intText n := rfl
  by_cases hneg : n < 0
  · simp [numberTokens, htext, Decimal.intText, hneg]
  · rw [numberTokens, htext, Decimal.intText, if_neg hneg, if_neg hneg]
    split
    -- a number that is not negative begins with a digit
    · rename_i digits hdigits
      have hminus : '-' ∈ Decimal.toDigits n.natAbs := by simp [hdigits]
      exact absurd (Decimal.isDigit_of_mem_toDigits hminus) (by decide)
    · rfl

theorem render_numberTokens_int (n : Int) :
    Token.render (numberTokens (.int n)) = String.ofList (Decimal.intText n) := by
  rw [numberTokens_int]
  by_cases hneg : n < 0
  · simp [Token.render, Token.renderAfter, Token.isWord, Token.text, Decimal.intText, hneg]
  · simp [Token.render, Token.renderAfter, Token.text, Decimal.intText, hneg]

theorem number?_intText {n : Int} (hmin : minInteger ≤ n) (hmax : n ≤ maxInteger) :
    number? (Decimal.intText n) = some (.int n) := by
  simp [number?, Decimal.readInt?_intText, Option.filter_some, hmin, hmax]

/-- A default is read back. -/
theorem defaultValue?_defaultTokens {value : DefaultValue} (h : IsWritableDefault value) :
    defaultValue? (defaultTokens value) = some value := by
  cases value with
  | bool b => cases b <;> rfl
  | text text =>
      have hne : text.isEmpty = false := by simpa [IsWritableDefault] using h
      show (if text.isEmpty then none else some (DefaultValue.text text)) = some (.text text)
      rw [hne]
      rfl
  | number n =>
      cases n with
      | float x => exact h.elim
      | int n =>
          have hunquoted : unquotedDefault (numberTokens (.int n)) = .number (.int n) := by
            simp [unquotedDefault, render_numberTokens_int, number?_intText h.1 h.2]
          show defaultValue? (numberTokens (.int n)) = some (.number (.int n))
          rw [← hunquoted, numberTokens_int]
          by_cases hneg : n < 0
          · rw [if_pos hneg]
            rfl
          · rw [if_neg hneg]
            rfl

theorem cardinality_op (c : Cardinality) : c.op.cardinality = c := by
  obtain ⟨source, target⟩ := c
  cases source <;> cases target <;> rfl

/-- A reference is read back. -/
theorem target?_referenceTokens (r : Reference) :
    target? (referenceTokens r) =
      some ((r.cardinality.getD .manyToOne).op, ⟨r.table, r.column⟩) := by
  unfold referenceTokens
  cases (r.cardinality.getD .manyToOne).op <;> rfl

/-! ### Reading settings -/

theorem applySetting_note {note : String} (h : note ≠ "") (column : Column) :
    applySetting column [.ident "note", .colon, .str note] =
      { column with note := some note } := by
  have hne : note.isEmpty = false := by simpa using h
  show (if note.isEmpty then column else { column with note := some note }) =
    { column with note := some note }
  rw [hne]
  rfl

theorem applySetting_default {value : DefaultValue} (h : IsWritableDefault value)
    (column : Column) :
    applySetting column (.ident "default" :: .colon :: defaultTokens value) =
      { column with default := some value } := by
  show applyKeyedSetting column "default" (defaultTokens value) = _
  unfold applyKeyedSetting
  rw [defaultValue?_defaultTokens h]
  rfl

theorem applySetting_ref {r : Reference} (h : IsWritableReference r) (column : Column) :
    applySetting column (.ident "ref" :: .colon :: referenceTokens r) =
      { column with reference := some r } := by
  obtain ⟨table, target, cardinality, onUpdate, onDelete⟩ := r
  obtain ⟨⟨c, rfl, -⟩, rfl, rfl⟩ := h
  show applyKeyedSetting column "ref" (referenceTokens ⟨table, target, some c, none, none⟩) = _
  unfold applyKeyedSetting
  rw [target?_referenceTokens, Option.getD_some]
  show { column with reference := some ⟨table, target, some c.op.cardinality, none, none⟩ } = _
  rw [cardinality_op]

/-- A setting that may be missing sets what its value says. -/
theorem foldl_keyedSetting {α : Type} {key : String} {tokens : α → List Token} {value : Option α}
    {f : Option α → Column}
    (h : ∀ x ∈ value, applySetting (f none) (.ident key :: .colon :: tokens x) = f (some x)) :
    (keyedSetting key (value.map tokens)).foldl applySetting (f none) = f value := by
  cases value with
  | none => rfl
  | some x => exact h x rfl

/-- The settings of a column, read one after the other, give the column back. -/
theorem foldl_columnSettings {column : Column} (h : IsWritableColumn column) :
    (columnSettings column).foldl applySetting { name := column.name, type := column.type } =
      column := by
  obtain ⟨name, type, primaryKey, unique, nullable, note, default, increment, reference⟩ := column
  obtain ⟨hnote, hdefault, hreference⟩ := h
  have hwords : (flagSetting primaryKey ["pk"] ++ flagSetting unique ["unique"] ++
      nullableSetting nullable ++ flagSetting increment ["increment"]).foldl applySetting
        { name, type } = { name, type, primaryKey, unique, nullable, increment } := by
    cases primaryKey <;> cases unique <;> cases increment <;>
      rcases nullable with _ | _ | _ <;> rfl
  simp only [columnSettings]
  rw [List.foldl_append, List.foldl_append, List.foldl_append, hwords]
  -- each of the settings with a key adds its property to those that are set already
  rw [foldl_keyedSetting
      (f := fun note => { name, type, primaryKey, unique, nullable, increment, note })
      (fun x hx => applySetting_note (by rintro rfl; exact hnote hx) _),
    foldl_keyedSetting
      (f := fun default => { name, type, primaryKey, unique, nullable, increment, note, default })
      (fun x hx => applySetting_default (hdefault x hx) _),
    foldl_keyedSetting
      (f := fun reference =>
        { name, type, primaryKey, unique, nullable, increment, note, default, reference })
      (fun x hx => applySetting_ref (hreference x hx) _)]

end Source

end Dbml
