import Dbml.Json.Value

/-!
# Writing JSON

Values are written on one line or, for readers, with one item a line and two more blanks at each
level.  Strings escape quotes, backslashes and control characters, and nothing else.
-/

namespace Dbml.Json

/-- The two digits of a number below 256 in base sixteen. -/
def hexPair (n : Nat) : List Char :=
  [Nat.digitChar (n / 16), Nat.digitChar (n % 16)]

/-- A character as it is written within a string. -/
def escapeChar (c : Char) : List Char :=
  if c = '"' then ['\\', '"']
  else if c = '\\' then ['\\', '\\']
  else if c = '\n' then ['\\', 'n']
  else if c = '\t' then ['\\', 't']
  else if c = '\r' then ['\\', 'r']
  else if c = '\x08' then ['\\', 'b']
  else if c = '\x0c' then ['\\', 'f']
  else if c.toNat < 0x20 then ['\\', 'u', '0', '0'] ++ hexPair c.toNat
  else [c]

/-- A string literal. -/
def stringLiteral (s : List Char) : List Char :=
  '"' :: s.flatMap escapeChar ++ ['"']

namespace Value

mutual

/-- The value on one line without blanks. -/
def compact : Value → List Char
  | .null => ['n', 'u', 'l', 'l']
  | .bool true => ['t', 'r', 'u', 'e']
  | .bool false => ['f', 'a', 'l', 's', 'e']
  | .number n => n.text
  | .string s => stringLiteral s.toList
  | .array items => '[' :: [','].intercalate (compactItems items) ++ [']']
  | .object fields => '{' :: [','].intercalate (compactFields fields) ++ ['}']

/-- The items of an array, each on its own. -/
def compactItems : List Value → List (List Char)
  | [] => []
  | value :: rest => compact value :: compactItems rest

/-- The fields of an object, each on its own. -/
def compactFields : List (String × Value) → List (List Char)
  | [] => []
  | (key, value) :: rest => (stringLiteral key.toList ++ ':' :: compact value) :: compactFields rest

end

/-- Items between brackets, one a line; without items the brackets stand together. -/
def block (opening closing : Char) (indent : Nat) (items : List (List Char)) : List Char :=
  if items.isEmpty then [opening, closing]
  else
    let lines := items.map (List.replicate (indent + 2) ' ' ++ ·)
    opening :: '\n' :: [',', '\n'].intercalate lines ++
      '\n' :: List.replicate indent ' ' ++ [closing]

mutual

/-- The value over several lines, of which all but the first are indented. -/
def pretty (indent : Nat) : Value → List Char
  | .array items => block '[' ']' indent (prettyItems (indent + 2) items)
  | .object fields => block '{' '}' indent (prettyFields (indent + 2) fields)
  | scalar => compact scalar

/-- The items of an array, each on its own. -/
def prettyItems (indent : Nat) : List Value → List (List Char)
  | [] => []
  | value :: rest => pretty indent value :: prettyItems indent rest

/-- The fields of an object, each on its own. -/
def prettyFields (indent : Nat) : List (String × Value) → List (List Char)
  | [] => []
  | (key, value) :: rest =>
    (stringLiteral key.toList ++ [':', ' '] ++ pretty indent value) :: prettyFields indent rest

end

/-- The value on one line. -/
def compactText (value : Value) : String :=
  String.ofList value.compact

/-- The value over several lines, without a line feed at the end. -/
def prettyText (value : Value) : String :=
  String.ofList (value.pretty 0)

end Value

end Dbml.Json
