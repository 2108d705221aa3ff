import Dbml.Schema.Action
import Dbml.Source.Header

/-!
# Relations in a source

A relation joins two endpoints by an operator, with settings for updates and deletions.  It is
stated on its own, where it may have a name, or in the settings of the column at its source.
-/

namespace Dbml.Source

/-- The operator at the beginning of a list of tokens. -/
def relationOp? : List Token → Option (RelationOp × List Token)
  | .less :: .greater :: rest => some (.manyToMany, rest)
  | .less :: rest => some (.oneToMany, rest)
  | .greater :: rest => some (.manyToOne, rest)
  | .dash :: rest => some (.oneToOne, rest)
  | _ => none

/-- The endpoint at the beginning of a list of tokens: a column and its table, whose own
qualifiers do not matter. -/
def endpoint? (tokens : List Token) : Option (Endpoint × List Token) := do
  let (names, rest) ← qualifiedName? tokens
  match names.reverse with
  | column :: table :: _ => some (⟨table, column⟩, rest)
  | _ => none

/-- The target of a relation that is stated at its source: `> users.id`. -/
def target? (tokens : List Token) : Option (RelationOp × Endpoint) := do
  let (op, rest) ← relationOp? tokens
  let (endpoint, _) ← endpoint? rest
  some (op, endpoint)

/-- The settings at the beginning of a list of tokens.  A list that is not closed takes up all the
tokens and sets nothing. -/
def takeSettings : List Token → List (List Token) × List Token
  | .leftBracket :: rest =>
    match takeGroup? .leftBracket .rightBracket (.leftBracket :: rest) with
    | some (inner, rest) => (items inner, rest)
    | none => ([], [])
  | tokens => ([], tokens)

/-- A relation with one setting more.  An action that is not known sets none. -/
def applyRelationSetting (relation : Relation) : List Token → Relation
  | .ident key :: .colon :: value =>
    let action := ReferentialAction.ofText? (Token.render value)
    match Text.lowercaseString key with
    | "delete" => { relation with onDelete := action }
    | "update" => { relation with onUpdate := action }
    | _ => relation
  | _ => relation

/-- The name of a relation, if it has one, and the colon, if there is one.  A name with a dot behind
it begins the first endpoint instead. -/
def takeRelationName : List Token → Option String × List Token
  | .colon :: rest => (none, rest)
  | token :: .colon :: rest =>
    match token.name? with
    | some name => (some name, rest)
    | none => (none, token :: .colon :: rest)
  | token :: .dot :: rest => (none, token :: .dot :: rest)
  | token :: rest =>
    match token.name? with
    | some name => (some name, rest)
    | none => (none, token :: rest)
  | [] => (none, [])

/-- A statement of the form `Ref name: a.x > b.y [settings]`, where name, colon and settings may be
missing.  What comes after these is ignored. -/
def relation? : List Token → Option NamedRelation
  | [] => none
  | keyword :: rest =>
    if keyword.isKeyword "ref" then do
      let (name, rest) := takeRelationName rest
      let (source, rest) ← endpoint? rest
      let (op, rest) ← relationOp? rest
      let (target, rest) ← endpoint? rest
      let stated : Relation := { source, target, cardinality := op.cardinality }
      some { relation := (takeSettings rest).1.foldl applyRelationSetting stated, name }
    else none

end Dbml.Source
