import Dbml.Schema.Basic
import Dbml.Token.Basic

/-!
# Default values in a source

A default is a quoted text, a truth value, a number or an expression, which is kept as text.
Numbers that fit into 64 bits as integers are integers, however they are written.
-/

namespace Dbml.Source

/-- The smallest integer of 64 bits. -/
def minInteger : Int := -0x8000000000000000

/-- The largest integer of 64 bits. -/
def maxInteger : Int := 0x7FFFFFFFFFFFFFFF

/-- A floating-point number, as an integer if it has no fractional part and is not too large. -/
def numberOfBinary (x : Binary64) : Json.Number :=
  match x.toInt? with
  | some n => if minInteger < n && n ≤ maxInteger then .int n else .float x
  | none => .float x

/-- The finite number that a literal denotes. -/
def number? (text : List Char) : Option Json.Number :=
  match (Decimal.readInt? text).filter fun n => minInteger ≤ n && n ≤ maxInteger with
  | some n => some (.int n)
  | none => ((Decimal.read? text).bind Binary64.ofDecimal?).map numberOfBinary

/-- A default that is no quoted text: a number, or else an expression. -/
def unquotedDefault (tokens : List Token) : DefaultValue :=
  let text := Token.render tokens
  match number? text.toList with
  | some n => .number n
  | none => .text text

/-- The default that the tokens of a setting state, if they state one. -/
def defaultValue? : List Token → Option DefaultValue
  | [] => none
  | [.str text] => if text.isEmpty then none else some (.text text)
  | [token] =>
    if token.isKeyword "true" then some (.bool true)
    else if token.isKeyword "false" then some (.bool false)
    else some (unquotedDefault [token])
  | tokens => some (unquotedDefault tokens)

end Dbml.Source
