import Dbml.Text.Alphanumeric
import Dbml.Text.Blank
import Dbml.Token.Basic

/-!
# Cutting a line into tokens

Blanks separate tokens, and two slashes begin a comment that takes up the rest of the text.  A step
of the lexer gives a token or an error and what is left of the text; except at the end of the text
something has been taken away, so that lexing comes to an end.
-/

namespace Dbml

/-- Why a text has no further tokens. -/
inductive LexError where
  /-- The character begins no token. -/
  | unexpectedChar (c : Char)
  /-- The closing quote of a string is missing. -/
  | unterminatedString
  deriving DecidableEq, Repr

/-- The wording of an error. -/
def LexError.message : LexError → String
  | .unexpectedChar c => "Unexpected character: " ++ String.singleton c
  | .unterminatedString => "Unterminated string"

namespace Lexer

open Text

/-! ### What is skipped -/

/-- The text from its first token on, past blanks and a comment. -/
def skipBlanks : List Char → List Char
  | [] => []
  | c :: rest =>
    if isBlank c then skipBlanks rest
    else if c = '/' && rest.head? = some '/' then []
    else c :: rest

/-! ### Words and numbers -/

/-- The decimal part after a number: a point with digits behind it. -/
def takeFraction : List Char → List Char × List Char
  | '.' :: c :: rest =>
    if c.isDigit then
      ('.' :: c :: rest.takeWhile Char.isDigit, rest.dropWhile Char.isDigit)
    else ([], '.' :: c :: rest)
  | text => ([], text)

/-- The word at the beginning of a text.  A word of ASCII digits is a number and may have a decimal
part. -/
def takeWord (text : List Char) : Token × List Char :=
  let word := text.takeWhile isWordChar
  let rest := text.dropWhile isWordChar
  if word.all Char.isDigit then
    let (fraction, rest) := takeFraction rest
    (.num (String.ofList (word ++ fraction)), rest)
  else (.ident (String.ofList word), rest)

/-! ### Quoted strings -/

/-- The character that an escape stands for: a line feed, a tab, a carriage return, or the escaped
character itself. -/
def unescape (c : Char) : Char :=
  if c = 'n' then '\n' else if c = 't' then '\t' else if c = 'r' then '\r' else c

/-- The characters of a string up to its closing quote, and the text after it; none when the
quote is missing. -/
def takeQuoted? (quote : Char) : List Char → Option (List Char × List Char)
  | [] => none
  | c :: rest =>
    if c = quote then some ([], rest)
    else if c = '\\' then
      match rest with
      | [] => none
      | escaped :: rest =>
        (takeQuoted? quote rest).map fun (text, rest) => (unescape escaped :: text, rest)
    else (takeQuoted? quote rest).map fun (text, rest) => (c :: text, rest)

/-- Strings stand between single quotes, double quotes or backticks. -/
def isQuote (c : Char) : Bool :=
  c = '\'' || c = '"' || c = '`'

/-! ### Tokens -/

/-- The tokens of one character. -/
def sign? (c : Char) : Option Token :=
  match c with
  | '{' => some .leftBrace
  | '}' => some .rightBrace
  | '(' => some .leftParen
  | ')' => some .rightParen
  | '[' => some .leftBracket
  | ']' => some .rightBracket
  | ',' => some .comma
  | ':' => some .colon
  | '.' => some .dot
  | '<' => some .less
  | '>' => some .greater
  | '-' => some .dash
  | _ => none

/-- The token at the beginning of a text that has no blank there, and the text after it.  A
character that begins no token is skipped, and a string without end takes the whole text with
it. -/
def takeToken (c : Char) (rest : List Char) : Except LexError Token × List Char :=
  match sign? c with
  | some token => (.ok token, rest)
  | none =>
    if isQuote c then
      match takeQuoted? c rest with
      | some (text, rest) => (.ok (.str (String.ofList text)), rest)
      | none => (.error .unterminatedString, [])
    else if isWordChar c then
      let (token, rest) := takeWord (c :: rest)
      (.ok token, rest)
    else (.error (.unexpectedChar c), rest)

/-- The next token of a text, and the text after it. -/
def next (text : List Char) : Except LexError Token × List Char :=
  match skipBlanks text with
  | [] => (.ok .endOfText, [])
  | c :: rest => takeToken c rest

/-! ### Each step takes something away -/

theorem skipBlanks_length (text : List Char) : (skipBlanks text).length ≤ text.length := by
  fun_induction skipBlanks text with
  | case1 => exact Nat.le_refl _
  | case2 c rest _ ih => exact Nat.le_succ_of_le ih
  | case3 => exact Nat.zero_le _
  | case4 => exact Nat.le_refl _

theorem takeFraction_length (text : List Char) : (takeFraction text).2.length ≤ text.length := by
  unfold takeFraction
  split
  · rename_i c rest
    split
    · have := length_dropWhile_le Char.isDigit rest
      simp only [List.length_cons]
      omega
    · exact Nat.le_refl _
  · exact Nat.le_refl _

theorem takeWord_length {c : Char} (hc : isWordChar c = true) (rest : List Char) :
    (takeWord (c :: rest)).2.length ≤ rest.length := by
  have hdrop : (c :: rest).dropWhile isWordChar = rest.dropWhile isWordChar := by
    rw [List.dropWhile_cons, if_pos hc]
  have hrest := length_dropWhile_le isWordChar rest
  simp only [takeWord, hdrop]
  split
  · exact Nat.le_trans (takeFraction_length _) hrest
  · exact hrest

theorem takeQuoted?_length {quote : Char} {text inner rest : List Char}
    (h : takeQuoted? quote text = some (inner, rest)) : rest.length < text.length := by
  fun_induction takeQuoted? quote text generalizing inner rest with
  | case1 => contradiction
  | case2 tail =>
    simp only [Option.some.injEq, Prod.mk.injEq] at h
    obtain ⟨-, rfl⟩ := h
    simp
  | case3 => contradiction
  | case4 _ escaped tail ih =>
    simp only [Option.map_eq_some_iff, Prod.exists, Prod.mk.injEq] at h
    obtain ⟨_, _, htail, -, rfl⟩ := h
    have := ih htail
    simp only [List.length_cons]
    omega
  | case5 c tail _ _ ih =>
    simp only [Option.map_eq_some_iff, Prod.exists, Prod.mk.injEq] at h
    obtain ⟨_, _, htail, -, rfl⟩ := h
    have := ih htail
    simp only [List.length_cons]
    omega

theorem takeToken_length (c : Char) (rest : List Char) :
    (takeToken c rest).2.length ≤ rest.length := by
  unfold takeToken
  split
  · exact Nat.le_refl _
  · split
    · split
      · rename_i hquoted
        exact Nat.le_of_lt (takeQuoted?_length hquoted)
      · exact Nat.zero_le _
    · split
      · rename_i hword
        exact takeWord_length hword rest
      · exact Nat.le_refl _

/-- Past a result other than the end of the text, the text is shorter. -/
theorem next_length {text : List Char} (h : (next text).1 ≠ .ok .endOfText) :
    (next text).2.length < text.length := by
  have hskip := skipBlanks_length text
  unfold next at h ⊢
  split at h
  · contradiction
  · rename_i c rest heq
    have := takeToken_length c rest
    simp only [heq, List.length_cons] at hskip ⊢
    omega

/-! ### Whole texts -/

/-- The tokens of a text up to the first error, with the end of the text behind them, and that
error. -/
def tokenize (text : List Char) : List Token × Option LexError :=
  match _hnext : (next text).1 with
  | .error error => ([.endOfText], some error)
  | .ok token =>
    if _hend : token = .endOfText then ([.endOfText], none)
    else
      let (tokens, error) := tokenize (next text).2
      (token :: tokens, error)
termination_by text.length
decreasing_by
  apply next_length
  rw [_hnext]
  simpa using _hend

/-- The tokens of a text without errors. -/
def tokenize? (text : List Char) : Except LexError (List Token) :=
  match tokenize text with
  | (tokens, none) => .ok tokens
  | (_, some error) => .error error

/-- The results of the first `count` steps of the lexer, which goes on after errors and at the
end of the text. -/
def steps : Nat → List Char → List (Except LexError Token)
  | 0, _ => []
  | count + 1, text => (next text).1 :: steps count (next text).2

end Lexer

end Dbml
