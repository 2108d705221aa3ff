import Dbml.Json.Lexeme
import Dbml.Json.Printer
import Dbml.Proofs.Source.Writer

/-!
# Literals are read back

A string and an integer are read as what they were written for, whatever text follows them.

* Strings, character by character: each character is written as one piece, and that piece stands for
  the character (`exists_piece`).  Pieces of control characters are code units below the surrogates,
  so that none of them waits for another half.
* Integers: the digits end where the text goes on with something else, the first of several digits
  is no zero (`wholePart?_toDigits`), and 64 bits hold all of them (`collect_eq`).
-/

namespace Dbml.Json

/-! ### Strings -/

theorem hexQuad?_hexPair : ∀ n < 0x20,
    hexQuad? '0' '0' (Nat.digitChar (n / 16)) (Nat.digitChar (n % 16)) = some n := by
  decide

/-- A control character as a code unit stands for itself, whatever pieces follow. -/
theorem assemble?_unit {n : Nat} (h : n < 0x20) (pieces : List Piece) :
    assemble? (.unit n :: pieces) = (assemble? pieces).map (Char.ofNat n :: ·) := by
  have hleading : isLeadingUnit n = false := by simp [isLeadingUnit]; omega
  have htrailing : isTrailingUnit n = false := by simp [isTrailingUnit]; omega
  cases pieces with
  | nil => simp [assemble?, hleading, htrailing]
  | cons next rest => simp [assemble?, hleading, htrailing]

theorem stringPieces?_simpleEscape {letter c : Char} {rest after : List Char} {pieces : List Piece}
    (h : simpleEscape? letter = some c) (hrest : stringPieces? rest = some (pieces, after)) :
    stringPieces? ('\\' :: letter :: rest) = some (.char c :: pieces, after) := by
  have hletter : letter ≠ 'u' := by
    rintro rfl
    simp [simpleEscape?] at h
  rw [stringPieces?.eq_3]
  · simp [h, hrest]
  · intros
    simp_all

/-- A character is written as an escape of one letter, as an escaped code unit or as itself. -/
theorem escapeChar_cases (c : Char) :
    (∃ letter, escapeChar c = ['\\', letter] ∧ simpleEscape? letter = some c) ∨
      (escapeChar c = ['\\', 'u', '0', '0'] ++ hexPair c.toNat ∧ c.toNat < 0x20) ∨
      (escapeChar c = [c] ∧ c ≠ '"' ∧ c ≠ '\\' ∧ ¬c.toNat < 0x20) := by
  unfold escapeChar
  split_ifs with hquote hbackslash hnewline htab hreturn hbackspace hfeed hcontrol
  iterate 7 exact .inl ⟨_, rfl, by subst c; decide⟩
  · exact .inr (.inl ⟨rfl, hcontrol⟩)
  · exact .inr (.inr ⟨rfl, hquote, hbackslash, hcontrol⟩)

theorem exists_piece (c : Char) : ∃ piece : Piece,
    (∀ rest pieces after, stringPieces? rest = some (pieces, after) →
      stringPieces? (escapeChar c ++ rest) = some (piece :: pieces, after)) ∧
    ∀ pieces, assemble? (piece :: pieces) = (assemble? pieces).map (c :: ·) := by
  rcases escapeChar_cases c with ⟨letter, hescape, hletter⟩ | ⟨hescape, hcontrol⟩ |
    ⟨hescape, hquote, hbackslash, hcontrol⟩
  · refine ⟨.char c, fun rest pieces after hrest => ?_, fun pieces => rfl⟩
    rw [hescape]
    exact stringPieces?_simpleEscape hletter hrest
  · refine ⟨.unit c.toNat, fun rest pieces after hrest => ?_, fun pieces => ?_⟩
    · simp [hescape, stringPieces?, hexPair, hexQuad?_hexPair c.toNat hcontrol, hrest]
    · rw [assemble?_unit hcontrol, Char.ofNat_toNat]
  · refine ⟨.char c, fun rest pieces after hrest => ?_, fun pieces => rfl⟩
    rw [hescape, List.singleton_append, stringPieces?.eq_def]
    simp [hbackslash, hcontrol, hrest]

theorem exists_pieces (text rest : List Char) : ∃ pieces,
    stringPieces? (text.flatMap escapeChar ++ '"' :: rest) = some (pieces, rest) ∧
      assemble? pieces = some text := by
  induction text with
  | nil => exact ⟨[], by simp [stringPieces?], rfl⟩
  | cons c text ih =>
      obtain ⟨piece, hread, hassemble⟩ := exists_piece c
      obtain ⟨pieces, hpieces, htext⟩ := ih
      refine ⟨piece :: pieces, ?_, ?_⟩
      · rw [List.flatMap_cons, List.append_assoc]
        exact hread _ _ _ hpieces
      · rw [hassemble, htext]
        rfl

theorem lexeme?_stringLiteral (text : String) (rest : List Char) :
    lexeme? (stringLiteral text.toList ++ rest) = some (.string (some text), rest) := by
  obtain ⟨pieces, hpieces, htext⟩ := exists_pieces text.toList rest
  simp [stringLiteral, lexeme?, hpieces, htext, String.ofList_toList]

/-! ### Integers -/

/-- The numbers that are integers of 64 bits, with or without sign. -/
def Number.IsInteger : Number → Prop
  | .int n => -2 ^ 63 ≤ n ∧ n < 2 ^ 64
  | .float _ => False

instance : (n : Number) → Decidable n.IsInteger
  | .int n => inferInstanceAs (Decidable (-2 ^ 63 ≤ n ∧ n < 2 ^ 64))
  | .float _ => inferInstanceAs (Decidable False)

/-- A number ends in front of the text. -/
def EndsNumber (rest : List Char) : Prop :=
  ∀ c ∈ rest.head?, c.isDigit = false ∧ c ≠ '.' ∧ c ≠ 'e' ∧ c ≠ 'E'

/-- The literal that an integer is written as. -/
def integerLiteral (n : Int) : NumberLiteral :=
  ⟨n < 0, Decimal.toDigits n.natAbs, none, none⟩

theorem digits?_append {digits rest : List Char} (hne : digits ≠ [])
    (hdigits : ∀ c ∈ digits, c.isDigit = true) (hrest : ∀ c ∈ rest.head?, c.isDigit = false) :
    digits? (digits ++ rest) = some (digits, rest) := by
  simp [digits?, Text.takeWhile_run hdigits hrest, Text.dropWhile_run hdigits hrest, hne]

theorem head_toDigits {n : Nat} (hn : 0 < n) :
    ∃ c rest, Decimal.toDigits n = c :: rest ∧ c ≠ '0' := by
  unfold Decimal.toDigits
  induction n using Nat.strong_induction_on with
  | h n ih =>
      by_cases hsmall : n < 10
      · have hzero : Nat.digitChar n ≠ '0' := by
          interval_cases n <;> decide
        exact ⟨_, [], Nat.toDigits_of_lt_base hsmall, hzero⟩
      · obtain ⟨c, rest, hdigits, hc⟩ := ih (n / 10) (by omega) (by omega)
        exact ⟨c, rest ++ [(n % 10).digitChar],
          by rw [Nat.toDigits_of_base_le (by decide) (by omega), hdigits]; rfl, hc⟩

theorem wholePart?_toDigits (n : Nat) {rest : List Char}
    (hrest : ∀ c ∈ rest.head?, c.isDigit = false) :
    wholePart? (Decimal.toDigits n ++ rest) = some (Decimal.toDigits n, rest) := by
  rcases Nat.eq_zero_or_pos n with rfl | hn
  · rfl
  · obtain ⟨c, tail, hdigits, hc⟩ := head_toDigits hn
    have hread : digits? (Decimal.toDigits n ++ rest) = some (Decimal.toDigits n, rest) :=
      digits?_append Nat.toDigits_ne_nil (fun c => Decimal.isDigit_of_mem_toDigits) hrest
    unfold wholePart?
    split
    · simp_all
    · exact hread

theorem unsignedNumber?_toDigits (negative : Bool) (n : Nat) {rest : List Char}
    (hrest : EndsNumber rest) :
    unsignedNumber? negative (Decimal.toDigits n ++ rest) =
      some (⟨negative, Decimal.toDigits n, none, none⟩, rest) := by
  have hfraction : fractionPart? rest = some (none, rest) := by
    unfold fractionPart?
    split
    · simpa using (hrest '.' rfl).2.1
    · rfl
  have hexponent : exponentPart? rest = some (none, rest) := by
    unfold exponentPart?
    split
    · rfl
    · rename_i c tail
      simp [(hrest c rfl).2.2]
  simp [unsignedNumber?, wholePart?_toDigits n fun c hc => (hrest c hc).1, hfraction, hexponent]

theorem lexeme?_digit {c : Char} (hc : c.isDigit = true) (rest : List Char) :
    lexeme? (c :: rest) =
      (unsignedNumber? false (c :: rest)).map fun (literal, rest) => (.number literal, rest) := by
  unfold lexeme?
  split
  case h_12 => rfl
  all_goals
    simp_all [Char.isDigit]

theorem lexeme?_intText (n : Int) {rest : List Char} (hrest : EndsNumber rest) :
    lexeme? (Decimal.intText n ++ rest) = some (.number (integerLiteral n), rest) := by
  have hread := fun negative => unsignedNumber?_toDigits negative n.natAbs hrest
  unfold Decimal.intText
  split
  · rename_i hn
    simp [lexeme?, hread, integerLiteral, hn]
  · rename_i hn
    obtain ⟨c, tail, hdigits⟩ := List.exists_cons_of_ne_nil
      (Nat.toDigits_ne_nil (n := n.natAbs) (b := 10))
    have hc : c.isDigit = true :=
      Decimal.isDigit_of_mem_toDigits (n := n.natAbs) (by simp [Decimal.toDigits, hdigits])
    have hcons : Decimal.toDigits n.natAbs ++ rest = c :: (tail ++ rest) := by
      rw [Decimal.toDigits, hdigits, List.cons_append]
    rw [hcons, lexeme?_digit hc, ← hcons, hread]
    simp [integerLiteral, hn]

/-- More digits make a number larger. -/
theorem le_ofDigitChars (digits : List Char) (significand : Nat) :
    significand ≤ Nat.ofDigitChars 10 digits significand := by
  induction digits generalizing significand with
  | nil => exact Nat.le_refl _
  | cons c digits ih =>
      rw [Nat.ofDigitChars_cons]
      have := ih (10 * significand + (c.toNat - '0'.toNat))
      omega

/-- 64 bits hold all digits of a number that they can hold. -/
theorem collect_eq {digits : List Char} {significand : Nat}
    (h : Nat.ofDigitChars 10 digits significand ≤ Number.maxUnsigned) :
    Number.collect significand digits = (Nat.ofDigitChars 10 digits significand, []) := by
  induction digits generalizing significand with
  | nil => rfl
  | cons c digits ih =>
      rw [Nat.ofDigitChars_cons] at h ⊢
      have hlonger : significand * 10 + (c.toNat - '0'.toNat) ≤ Number.maxUnsigned := by
        have := le_ofDigitChars digits (10 * significand + (c.toNat - '0'.toNat))
        omega
      have hcomm : significand * 10 = 10 * significand := Nat.mul_comm _ _
      rw [Number.collect, if_pos hlonger, hcomm]
      exact ih h

/-- The literal of an integer of 64 bits stands for that integer. -/
theorem ofLiteral?_integerLiteral {n : Int} (h : (Number.int n).IsInteger) :
    Number.ofLiteral? (integerLiteral n) = some (.int n) := by
  obtain ⟨hlow, hhigh⟩ := h
  have hvalue : Nat.ofDigitChars 10 (Decimal.toDigits n.natAbs) 0 = n.natAbs :=
    Decimal.ofDigits_toDigits n.natAbs
  have hcollect : Number.collect 0 (Decimal.toDigits n.natAbs) = (n.natAbs, []) := by
    rw [collect_eq (by rw [hvalue, Number.maxUnsigned]; omega), hvalue]
  by_cases hn : n < 0
  · have hrange : 0 < n.natAbs ∧ n.natAbs ≤ Number.maxNegated := by
      rw [Number.maxNegated]
      omega
    simp only [Number.ofLiteral?, integerLiteral, hcollect, hn, hrange, decide_true,
      List.isEmpty_nil, Option.isNone_none, Bool.and_self, Bool.not_true, if_true,
      Bool.false_eq_true, if_false]
    congr 2
    omega
  · simp only [Number.ofLiteral?, integerLiteral, hcollect, hn, decide_false, List.isEmpty_nil,
      Option.isNone_none, Bool.and_self, Bool.not_false, if_true]
    congr 2
    omega

end Dbml.Json
