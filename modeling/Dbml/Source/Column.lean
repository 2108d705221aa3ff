import Dbml.Source.Default
import Dbml.Source.Relation

/-!
# Columns in a source

A column has a name, a type, possibly with arguments, and a list of settings.  Settings that are not
known are ignored; of several that set the same the last one counts.
-/

namespace Dbml.Source

/-- The column with a setting of the form `key: value`. -/
def applyKeyedSetting (column : Column) (key : String) (value : List Token) : Column :=
  match Text.lowercaseString key with
  | "ref" =>
    match target? value with
    | some (op, target) =>
      { column with
        reference := some ⟨target.table, target.column, some op.cardinality, none, none⟩ }
    | none => column
  | "default" =>
    match defaultValue? value with
    | some value => { column with default := some value }
    | none => column
  | "note" =>
    match value with
    | [.str note] => if note.isEmpty then column else { column with note := some note }
    | _ => column
  | _ => column

/-- The words of a setting that is nothing but words, in lower case. -/
def flagWords? : List Token → Option (List String)
  | [] => some []
  | .ident word :: rest => (flagWords? rest).map (Text.lowercaseString word :: ·)
  | _ => none

/-- The name of such a setting: its words with blanks between them. -/
def flagName? (setting : List Token) : Option String :=
  (flagWords? setting).map (" ".intercalate ·)

/-- The column with a setting that consists of words. -/
def applyFlag (column : Column) : String → Column
  | "pk" | "primary key" => { column with primaryKey := true }
  | "unique" => { column with unique := true }
  | "not null" | "nn" => { column with nullable := some false }
  | "null" => { column with nullable := some true }
  | "increment" | "auto_increment" | "identity" => { column with increment := true }
  | _ => column

/-- The column with one setting more. -/
def applySetting (column : Column) : List Token → Column
  | .ident key :: .colon :: value => applyKeyedSetting column key value
  | setting =>
    match flagName? setting with
    | some name => applyFlag column name
    | none => column

/-- A type with the arguments that follow its name, if any: `decimal(10,2)`. -/
def typeWithArguments? (name : String) : List Token → Option (String × List Token)
  | .leftParen :: rest => do
    let (arguments, rest) ← takeGroup? .leftParen .rightParen (.leftParen :: rest)
    some (name ++ "(" ++ Token.render arguments ++ ")", rest)
  | tokens => some (name, tokens)

/-- A type with the mark of an array that follows it, if any: `text[]`. -/
def typeWithArrayMark (type : String) : List Token → String × List Token
  | .leftBracket :: .rightBracket :: rest => (type ++ "[]", rest)
  | tokens => (type, tokens)

/-- A column at the beginning of a list of tokens, and the tokens after it. -/
def column? : List Token → Option (Column × List Token)
  | nameToken :: typeToken :: rest => do
    let name ← nameToken.name?
    let type ← typeToken.name?
    let (type, rest) ← typeWithArguments? type rest
    let (type, rest) := typeWithArrayMark type rest
    let (settings, rest) := takeSettings rest
    some (settings.foldl applySetting { name, type }, rest)
  | _ => none

end Dbml.Source
