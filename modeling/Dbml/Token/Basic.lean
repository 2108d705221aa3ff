import Dbml.Text.Case

/-!
# Tokens

The tokens of a schema source, and the text that a list of tokens makes up.
-/

namespace Dbml

/-- A token of a schema source. -/
inductive Token where
  /-- A word that is no number. -/
  | ident (text : String)
  /-- A quoted string, without its quotes and with its escapes resolved. -/
  | str (text : String)
  /-- A number as it is written. -/
  | num (text : String)
  | leftBrace
  | rightBrace
  | leftParen
  | rightParen
  | leftBracket
  | rightBracket
  | comma
  | colon
  | dot
  | less
  | greater
  | dash
  /-- The end of the text, which every token list ends with. -/
  | endOfText
  deriving DecidableEq, Repr

namespace Token

/-- The name that a word or a quoted string is. -/
def name? : Token → Option String
  | .ident text => some text
  | .str text => some text
  | _ => none

/-- The token is the given keyword, in whatever ASCII case; a quoted string is no keyword. -/
def isKeyword (keyword : String) : Token → Bool
  | .ident text => Text.eqIgnoringCase text.toList keyword.toList
  | _ => false

/-- Tokens of which two in a row need a blank between them. -/
def isWord : Token → Bool
  | .ident _ | .str _ | .num _ => true
  | _ => false

/-- The text of one token.  Quoted strings stand between single quotes, with nothing escaped. -/
def text : Token → List Char
  | .ident text => text.toList
  | .num text => text.toList
  | .str text => '\'' :: text.toList ++ ['\'']
  | .leftBrace => ['{']
  | .rightBrace => ['}']
  | .leftParen => ['(']
  | .rightParen => [')']
  | .leftBracket => ['[']
  | .rightBracket => [']']
  | .comma => [',']
  | .colon => [':']
  | .dot => ['.']
  | .less => ['<']
  | .greater => ['>']
  | .dash => ['-']
  | .endOfText => []

/-- The text of a list of tokens that follows a word or something else. -/
def renderAfter (afterWord : Bool) : List Token → List Char
  | [] => []
  | token :: rest =>
    (if afterWord && token.isWord then [' '] else []) ++ token.text ++
      renderAfter token.isWord rest

/-- The text of a list of tokens, with a blank between any two words: `now()` or
`decimal(10,2)`. -/
def render (tokens : List Token) : String :=
  String.ofList (renderAfter false tokens)

end Token

end Dbml
