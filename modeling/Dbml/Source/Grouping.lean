import Dbml.Token.Basic

/-!
# Groups, statements and items

Before tokens mean anything they are grouped: a line into statements, a bracketed group out of a
statement, a list of settings into items.
-/

namespace Dbml.Source

/-! ### Bracketed groups -/

/-- A group with another token in front of it. -/
def prepended (token : Token) : List Token × List Token → List Token × List Token
  | (inner, rest) => (token :: inner, rest)

/-- The tokens up to the `closing` one that leaves `depth` inner groups behind, and the tokens after
it; none when a group is not closed. -/
def untilClosed? (opening closing : Token) (depth : Nat) :
    List Token → Option (List Token × List Token)
  | [] => none
  | token :: rest =>
    if token = opening then
      (untilClosed? opening closing (depth + 1) rest).map (prepended token)
    else if token = closing then
      match depth with
      | 0 => some ([], rest)
      | depth + 1 => (untilClosed? opening closing depth rest).map (prepended token)
    else (untilClosed? opening closing depth rest).map (prepended token)

/-- A group at the beginning of a list of tokens: what stands between its two brackets, and the
tokens after it. -/
def takeGroup? (opening closing : Token) : List Token → Option (List Token × List Token)
  | [] => none
  | token :: rest => if token = opening then untilClosed? opening closing 0 rest else none

/-! ### Statements of a line -/

/-- The statements of a line of which `pending` are the tokens, last one first, of the one begun and
`depth` the number of square brackets that are open in it. -/
def statementsAfter (depth : Nat) (pending : List Token) : List Token → List (List Token)
  | [] => if pending.isEmpty then [] else [pending.reverse]
  | token :: rest =>
    match token, depth with
    | .leftBracket, _ => statementsAfter (depth + 1) (token :: pending) rest
    | .rightBracket, _ => statementsAfter (depth - 1) (token :: pending) rest
    | .leftBrace, 0 => (token :: pending).reverse :: statementsAfter 0 [] rest
    | .rightBrace, 0 =>
      let closed := [token] :: statementsAfter 0 [] rest
      if pending.isEmpty then closed else pending.reverse :: closed
    | _, _ => statementsAfter depth (token :: pending) rest

/-- The tokens of a line without the mark of its end. -/
def withoutEnd (tokens : List Token) : List Token :=
  if tokens.getLast? = some .endOfText then tokens.dropLast else tokens

/-- The statements of a line.  Outside square brackets a statement ends behind an opening brace,
and a closing brace is one of its own. -/
def statements (tokens : List Token) : List (List Token) :=
  statementsAfter 0 [] (withoutEnd tokens)

/-! ### Items of a list -/

/-- The items of a list of which `pending` are the tokens, last one first, of the one begun and
`depth` the number of brackets that are open in it. -/
def itemsAfter (depth : Nat) (pending : List Token) : List Token → List (List Token)
  | [] => if pending.isEmpty then [] else [pending.reverse]
  | token :: rest =>
    match token, depth with
    | .leftParen, _ | .leftBracket, _ => itemsAfter (depth + 1) (token :: pending) rest
    | .rightParen, _ | .rightBracket, _ => itemsAfter (depth - 1) (token :: pending) rest
    | .comma, 0 =>
      let others := itemsAfter 0 [] rest
      if pending.isEmpty then others else pending.reverse :: others
    | _, _ => itemsAfter depth (token :: pending) rest

/-- The non-empty items of a list, which the commas outside inner brackets separate. -/
def items (tokens : List Token) : List (List Token) :=
  itemsAfter 0 [] tokens

end Dbml.Source
