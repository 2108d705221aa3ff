import Dbml.Source.Grouping

/-!
# Names and headers

A name may be qualified by others in front of it, with dots between them.  A header opens a block: a
table with its name and alias, or the project.
-/

namespace Dbml.Source

/-- A name and its qualifiers, in the order in which they are written, and the tokens after them.  A
dot always has another name behind it. -/
def qualifiedName? : List Token → Option (List String × List Token)
  | token :: .dot :: rest => do
    let first ← token.name?
    let (others, rest) ← qualifiedName? rest
    some (first :: others, rest)
  | token :: rest => do
    let name ← token.name?
    some ([name], rest)
  | [] => none

/-- The header of a table. -/
structure TableHeader where
  name : String
  aliasName : Option String
  deriving DecidableEq, Repr

/-- An alias, if the keyword for one comes next. -/
def takeAlias? : List Token → Option (Option String × List Token)
  | keyword :: rest =>
    if keyword.isKeyword "as" then
      match rest with
      | token :: rest => token.name?.map fun name => (some name, rest)
      | [] => none
    else some (none, keyword :: rest)
  | [] => some (none, [])

/-- The tokens behind the settings of a table, which are ignored. -/
def skipSettings? : List Token → Option (List Token)
  | .leftBracket :: rest => (takeGroup? .leftBracket .rightBracket (.leftBracket :: rest)).map (·.2)
  | tokens => some tokens

/-- A header of the form `Table name as alias [settings] {`, where alias and settings may be
missing. -/
def TableHeader.ofTokens? : List Token → Option TableHeader
  | [] => none
  | keyword :: rest =>
    if keyword.isKeyword "table" then do
      let (names, rest) ← qualifiedName? rest
      let (aliasName, rest) ← takeAlias? rest
      let rest ← skipSettings? rest
      if rest = [.leftBrace] then names.getLast?.map (⟨·, aliasName⟩) else none
    else none

/-- The header of the project, with its name if it has one: `Project name {`. -/
def projectHeader? : List Token → Option (Option String)
  | [keyword, .leftBrace] => if keyword.isKeyword "project" then some none else none
  | [keyword, token, .leftBrace] =>
    if keyword.isKeyword "project" then token.name?.map some else none
  | _ => none

/-- A note on a table, `Note: ...`, which is ignored. -/
def isNote : List Token → Bool
  | keyword :: .colon :: _ => keyword.isKeyword "note"
  | _ => false

end Dbml.Source
