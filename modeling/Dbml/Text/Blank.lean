import Dbml.Text.Ranges

/-!
# Blanks, lines and words

Blank characters are those with the Unicode property `White_Space`.  Lines end at line feeds only:
every other control character that some editors take for a line end is a blank inside its line.
-/

namespace Dbml.Text

/-- Dropping from the front never lengthens a list. -/
theorem length_dropWhile_le {α : Type} (p : α → Bool) (l : List α) :
    (l.dropWhile p).length ≤ l.length :=
  (List.dropWhile_sublist p).length_le

/-- The characters with the Unicode property `White_Space`. -/
def blankRanges : Ranges :=
  [(0x9, 0xD), (0x20, 0x20), (0x85, 0x85), (0xA0, 0xA0), (0x1680, 0x1680), (0x2000, 0x200A),
   (0x2028, 0x2029), (0x202F, 0x202F), (0x205F, 0x205F), (0x3000, 0x3000)]

/-- Blank characters separate tokens and are trimmed from the ends of a line. -/
def isBlank (c : Char) : Bool :=
  blankRanges.has c

/-- A text without the blanks at its two ends. -/
def trim (text : List Char) : List Char :=
  ((text.dropWhile isBlank).reverse.dropWhile isBlank).reverse

/-- The lines of a text, which line feeds separate. -/
def lines (text : List Char) : List (List Char) :=
  text.splitOn '\n'

/-- The non-empty runs of characters that are not blank. -/
def words (text : List Char) : List (List Char) :=
  (text.splitOnP isBlank).filter fun word => !word.isEmpty

end Dbml.Text
