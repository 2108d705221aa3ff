import Dbml.Text.CaseTables
import Dbml.Text.CaseContext

/-!
# Upper and lower case

The full case mappings of Unicode, independent of language: one character may become several, and a
capital sigma at the end of a word becomes the final small sigma.  Within ASCII they agree with
core's `Char.toLower` and `Char.toUpper`.
-/

namespace Dbml.Text

/-- The code point that a list of runs gives for `c`, which is `c` itself when no run takes it. -/
def mapByRuns (runs : List CaseRun) (c : Char) : Char :=
  match runs.find? (·.takes c.toNat) with
  | some run => Char.ofNat (c.toNat + run.shift).toNat
  | none => c

/-- The lower-case form of a character on its own.  Only the dotted capital I needs two characters:
an `i` and a combining dot above. -/
def lower (c : Char) : List Char :=
  if c.toNat < 128 then [c.toLower]
  else if c.toNat = 0x130 then ['i', Char.ofNat 0x307]
  else [mapByRuns lowerRuns c]

/-- The upper-case form of a character. -/
def upper (c : Char) : List Char :=
  if c.toNat < 128 then [c.toUpper]
  else
    match upperExpansions.lookup c.toNat with
    | some codes => codes.map Char.ofNat
    | none => [mapByRuns upperRuns c]

/-- Past any ignorable characters, a cased one comes next. -/
def meetsCased (text : List Char) : Bool :=
  match text.dropWhile isCaseIgnorable with
  | c :: _ => isCased c
  | [] => false

/-- The small form of a sigma between `before` (read backwards) and `after`: it is final when its
word has a letter before it and none after it. -/
def smallSigma (before after : List Char) : Char :=
  if meetsCased before && !meetsCased after then 'ς' else 'σ'

/-- The lower-case form of a text that follows the characters `before`, given last one first. -/
def lowercaseAfter (before : List Char) : List Char → List Char
  | [] => []
  | c :: rest =>
    (if c = 'Σ' then [smallSigma before rest] else lower c) ++ lowercaseAfter (c :: before) rest

/-- The lower-case form of a text. -/
def lowercase (text : List Char) : List Char :=
  lowercaseAfter [] text

/-- The lower-case form of a string. -/
def lowercaseString (s : String) : String :=
  String.ofList (lowercase s.toList)

/-- The upper-case form of a text. -/
def uppercase (text : List Char) : List Char :=
  text.flatMap upper

/-- Equality that does not tell apart the two cases of an ASCII letter. -/
def eqIgnoringCase (a b : List Char) : Bool :=
  a.map Char.toLower == b.map Char.toLower

end Dbml.Text
