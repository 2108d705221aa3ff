import Dbml.Json.Number
import Dbml.Text.Blank

/-!
# The lexemes of JSON

A text is cut into brackets, separators, names and literals.  Strings are checked in two steps: here
only their escapes have to be well formed, and a string whose escapes name half of a surrogate pair
is kept as one that is no text.  It does no harm where nobody reads it.
-/

namespace Dbml.Json

/-- The lexemes of JSON.  A string is missing its text when it is none. -/
inductive Lexeme where
  | openArray
  | closeArray
  | openObject
  | closeObject
  | comma
  | colon
  | null
  | bool (b : Bool)
  | number (literal : NumberLiteral)
  | string (text : Option String)
  deriving DecidableEq, Repr

/-- The four blank characters of JSON. -/
def isJsonBlank (c : Char) : Bool :=
  c = ' ' || c = '\n' || c = '\t' || c = '\r'

/-! ### Numbers -/

/-- At least one digit. -/
def digits? (text : List Char) : Option (List Char × List Char) :=
  let digits := text.takeWhile Char.isDigit
  if digits.isEmpty then none else some (digits, text.dropWhile Char.isDigit)

/-- The digits before the point: a zero alone, or digits that do not begin with a zero. -/
def wholePart? : List Char → Option (List Char × List Char)
  | '0' :: rest => some (['0'], rest)
  | text => digits? text

/-- The digits after a point, if one follows. -/
def fractionPart? : List Char → Option (Option (List Char) × List Char)
  | '.' :: rest => (digits? rest).map fun (digits, rest) => (some digits, rest)
  | text => some (none, text)

/-- The sign and the digits of an exponent, if one follows. -/
def exponentPart? : List Char → Option (Option (Bool × List Char) × List Char)
  | [] => some (none, [])
  | c :: rest =>
    if c = 'e' || c = 'E' then
      let (down, unsigned) := Decimal.readSign rest
      (digits? unsigned).map fun (digits, rest) => (some (down, digits), rest)
    else some (none, c :: rest)

/-- A number literal without its sign. -/
def unsignedNumber? (negative : Bool) (text : List Char) : Option (NumberLiteral × List Char) := do
  let (whole, text) ← wholePart? text
  let (fraction, text) ← fractionPart? text
  let (exponent, text) ← exponentPart? text
  some (⟨negative, whole, fraction, exponent⟩, text)

/-! ### Strings -/

/-- A part of a string: a character, or a code unit written as an escape. -/
inductive Piece where
  | char (c : Char)
  | unit (n : Nat)
  deriving DecidableEq, Repr

/-- The value of a hexadecimal digit. -/
def hexDigit? (c : Char) : Option Nat :=
  if c.isDigit then some (c.toNat - '0'.toNat)
  else if 'a' ≤ c && c ≤ 'f' then some (c.toNat - 'a'.toNat + 10)
  else if 'A' ≤ c && c ≤ 'F' then some (c.toNat - 'A'.toNat + 10)
  else none

/-- The value of four hexadecimal digits. -/
def hexQuad? (a b c d : Char) : Option Nat := do
  some (((← hexDigit? a) * 16 + (← hexDigit? b)) * 256 + (← hexDigit? c) * 16 + (← hexDigit? d))

/-- The character that an escape of one letter stands for. -/
def simpleEscape? (c : Char) : Option Char :=
  match c with
  | '"' => some '"'
  | '\\' => some '\\'
  | '/' => some '/'
  | 'b' => some '\x08'
  | 'f' => some '\x0c'
  | 'n' => some '\n'
  | 'r' => some '\r'
  | 't' => some '\t'
  | _ => none

/-- The pieces of a string up to its closing quote, and the text after it. -/
def stringPieces? : List Char → Option (List Piece × List Char)
  | '"' :: rest => some ([], rest)
  | '\\' :: 'u' :: a :: b :: c :: d :: rest => do
    let n ← hexQuad? a b c d
    let (pieces, rest) ← stringPieces? rest
    some (.unit n :: pieces, rest)
  | '\\' :: c :: rest => do
    let escaped ← simpleEscape? c
    let (pieces, rest) ← stringPieces? rest
    some (.char escaped :: pieces, rest)
  | c :: rest =>
    if c = '\\' || c.toNat < 0x20 then none
    else do
      let (pieces, rest) ← stringPieces? rest
      some (.char c :: pieces, rest)
  | [] => none

/-- The first half of a surrogate pair. -/
def isLeadingUnit (n : Nat) : Bool := 0xD800 ≤ n && n < 0xDC00

/-- The second half of a surrogate pair. -/
def isTrailingUnit (n : Nat) : Bool := 0xDC00 ≤ n && n < 0xE000

/-- The characters of a string; none when a half of a surrogate pair lacks the other. -/
def assemble? : List Piece → Option (List Char)
  | [] => some []
  | .char c :: rest => (assemble? rest).map (c :: ·)
  | [.unit n] => if isLeadingUnit n || isTrailingUnit n then none else some [Char.ofNat n]
  | .unit n :: next :: rest =>
    if isTrailingUnit n then none
    else if isLeadingUnit n then
      match next with
      | .unit m =>
        if isTrailingUnit m then
          (assemble? rest).map (Char.ofNat (0x10000 + (n - 0xD800) * 0x400 + (m - 0xDC00)) :: ·)
        else none
      | .char _ => none
    else (assemble? (next :: rest)).map (Char.ofNat n :: ·)

/-! ### Lexemes -/

/-- The lexeme at the beginning of a text that does not begin with a blank. -/
def lexeme? : List Char → Option (Lexeme × List Char)
  | '[' :: rest => some (.openArray, rest)
  | ']' :: rest => some (.closeArray, rest)
  | '{' :: rest => some (.openObject, rest)
  | '}' :: rest => some (.closeObject, rest)
  | ',' :: rest => some (.comma, rest)
  | ':' :: rest => some (.colon, rest)
  | 'n' :: 'u' :: 'l' :: 'l' :: rest => some (.null, rest)
  | 't' :: 'r' :: 'u' :: 'e' :: rest => some (.bool true, rest)
  | 'f' :: 'a' :: 'l' :: 's' :: 'e' :: rest => some (.bool false, rest)
  | '"' :: rest =>
    (stringPieces? rest).map fun (pieces, rest) =>
      (.string ((assemble? pieces).map String.ofList), rest)
  | '-' :: rest => (unsignedNumber? true rest).map fun (literal, rest) => (.number literal, rest)
  | text => (unsignedNumber? false text).map fun (literal, rest) => (.number literal, rest)

/-! ### A lexeme is never empty -/

theorem digits?_length {text digits rest : List Char} (h : digits? text = some (digits, rest)) :
    rest.length < text.length := by
  simp only [digits?] at h
  split at h
  · contradiction
  · rename_i hne
    simp only [Option.some.injEq, Prod.mk.injEq] at h
    obtain ⟨rfl, rfl⟩ := h
    have hsplit := congrArg List.length
      (List.takeWhile_append_dropWhile (p := Char.isDigit) (l := text))
    have hpos : 0 < (text.takeWhile Char.isDigit).length := by
      simpa [List.length_pos_iff] using hne
    simp only [List.length_append] at hsplit
    omega

theorem wholePart?_length {text whole rest : List Char}
    (h : wholePart? text = some (whole, rest)) : rest.length < text.length := by
  unfold wholePart? at h
  split at h
  · simp only [Option.some.injEq, Prod.mk.injEq] at h
    obtain ⟨-, rfl⟩ := h
    simp
  · exact digits?_length h

theorem fractionPart?_length {text rest : List Char} {fraction : Option (List Char)}
    (h : fractionPart? text = some (fraction, rest)) : rest.length ≤ text.length := by
  unfold fractionPart? at h
  split at h
  · simp only [Option.map_eq_some_iff, Prod.exists, Prod.mk.injEq] at h
    obtain ⟨digits, _, hdigits, -, rfl⟩ := h
    have := digits?_length hdigits
    simp only [List.length_cons]
    omega
  · simp only [Option.some.injEq, Prod.mk.injEq] at h
    exact h.2 ▸ Nat.le_refl _

theorem readSign_length (text : List Char) : (Decimal.readSign text).2.length ≤ text.length := by
  unfold Decimal.readSign
  split <;> simp

theorem exponentPart?_length {text rest : List Char} {exponent : Option (Bool × List Char)}
    (h : exponentPart? text = some (exponent, rest)) : rest.length ≤ text.length := by
  unfold exponentPart? at h
  split at h
  · simp only [Option.some.injEq, Prod.mk.injEq] at h
    exact h.2 ▸ Nat.le_refl _
  · rename_i c tail
    split at h
    · simp only [Option.map_eq_some_iff, Prod.exists, Prod.mk.injEq] at h
      obtain ⟨digits, _, hdigits, -, rfl⟩ := h
      have := digits?_length hdigits
      have := readSign_length tail
      simp only [List.length_cons]
      omega
    · simp only [Option.some.injEq, Prod.mk.injEq] at h
      exact h.2 ▸ Nat.le_refl _

theorem unsignedNumber?_length {negative : Bool} {text rest : List Char} {literal : NumberLiteral}
    (h : unsignedNumber? negative text = some (literal, rest)) : rest.length < text.length := by
  simp only [unsignedNumber?, Option.bind_eq_bind, Option.bind_eq_some_iff, Option.some.injEq,
    Prod.exists, Prod.mk.injEq] at h
  obtain ⟨_, _, hwhole, _, _, hfraction, _, _, hexponent, -, rfl⟩ := h
  have := wholePart?_length hwhole
  have := fractionPart?_length hfraction
  have := exponentPart?_length hexponent
  omega

theorem stringPieces?_length {text rest : List Char} {pieces : List Piece}
    (h : stringPieces? text = some (pieces, rest)) : rest.length < text.length := by
  fun_induction stringPieces? text generalizing pieces rest with
  | case1 tail =>
    simp only [Option.some.injEq, Prod.mk.injEq] at h
    obtain ⟨-, rfl⟩ := h
    simp
  | case2 a b c d tail ih =>
    simp only [Option.bind_eq_bind, Option.bind_eq_some_iff, Option.some.injEq, Prod.exists,
      Prod.mk.injEq] at h
    obtain ⟨_, -, _, _, htail, -, rfl⟩ := h
    have := ih htail
    simp only [List.length_cons]
    omega
  | case3 c tail _ ih =>
    simp only [Option.bind_eq_bind, Option.bind_eq_some_iff, Option.some.injEq, Prod.exists,
      Prod.mk.injEq] at h
    obtain ⟨_, -, _, _, htail, -, rfl⟩ := h
    have := ih htail
    simp only [List.length_cons]
    omega
  | case4 => contradiction
  | case5 c tail _ _ _ _ ih =>
    simp only [Option.bind_eq_bind, Option.bind_eq_some_iff, Option.some.injEq, Prod.exists,
      Prod.mk.injEq] at h
    obtain ⟨_, _, htail, -, rfl⟩ := h
    have := ih htail
    simp only [List.length_cons]
    omega
  | case6 => contradiction

/-- What follows a lexeme is shorter than the text that begins with it. -/
theorem lexeme?_length {text rest : List Char} {lexeme : Lexeme}
    (h : lexeme? text = some (lexeme, rest)) : rest.length < text.length := by
  unfold lexeme? at h
  split at h
  case h_10 =>
    simp only [Option.map_eq_some_iff, Prod.exists, Prod.mk.injEq] at h
    obtain ⟨_, _, hpieces, -, rfl⟩ := h
    have := stringPieces?_length hpieces
    simp only [List.length_cons]
    omega
  case h_11 =>
    simp only [Option.map_eq_some_iff, Prod.exists, Prod.mk.injEq] at h
    obtain ⟨_, _, hnumber, -, rfl⟩ := h
    have := unsignedNumber?_length hnumber
    simp only [List.length_cons]
    omega
  case h_12 =>
    simp only [Option.map_eq_some_iff, Prod.exists, Prod.mk.injEq] at h
    obtain ⟨_, _, hnumber, -, rfl⟩ := h
    exact unsignedNumber?_length hnumber
  all_goals
    simp only [Option.some.injEq, Prod.mk.injEq] at h
    obtain ⟨-, rfl⟩ := h
    simp only [List.length_cons]
    omega

/-- All lexemes of a text; none when a part of it is no lexeme. -/
def lexemes? (text : List Char) : Option (List Lexeme) :=
  match _hskip : text.dropWhile isJsonBlank with
  | [] => some []
  | c :: rest =>
    match _hlexeme : lexeme? (c :: rest) with
    | none => none
    | some (lexeme, rest) => (lexemes? rest).map (lexeme :: ·)
termination_by text.length
decreasing_by
  have hshorter := lexeme?_length _hlexeme
  have hskipped := Text.length_dropWhile_le isJsonBlank text
  rw [_hskip] at hskipped
  omega

end Dbml.Json
