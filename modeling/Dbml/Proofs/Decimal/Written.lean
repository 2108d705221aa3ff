import Dbml.Decimal.Basic
import Dbml.Proofs.Token.Lexing

/-!
# Written numbers

A number is written with digits, a sign, a fraction and an exponent, of which all but the first
digits may be missing.  It is read part by part: each part ends where a character comes that cannot
go on with it.

* `WrittenNumber`: the parts, and `WrittenNumber.text`, what they make up;
* `WrittenNumber.read?_text`: every written number is read as the decimal that it stands for;
* `WrittenNumber.readInt?_text`, `WrittenNumber.readInt?_text_of_not_isInteger`: one without
  fraction and exponent is an integer, and no other is.
-/

namespace Dbml

/-- Some decimal digits. -/
structure Digits where
  text : List Char
  ne_nil : text ≠ []
  isDigit : ∀ c ∈ text, c.isDigit = true

/-- An exponent: its mark, perhaps a minus, and digits. -/
structure WrittenExponent where
  mark : Char
  negative : Bool
  digits : Digits
  isMark : mark = 'e' ∨ mark = 'E'

/-- The parts of a number. -/
structure WrittenNumber where
  negative : Bool
  whole : Digits
  fraction : Option Digits
  exponent : Option WrittenExponent

/-- A minus in front of what is negative. -/
def signText (negative : Bool) : List Char :=
  if negative then ['-'] else []

/-- The number with the sign. -/
def signed (negative : Bool) (n : Nat) : Int :=
  if negative then -n else n

namespace Digits

/-- The number that the digits spell. -/
def value (digits : Digits) : Nat :=
  Decimal.ofDigits digits.text

variable {digits : Digits}

theorem all_isDigit (digits : Digits) : digits.text.all Char.isDigit = true :=
  List.all_eq_true.mpr digits.isDigit

theorem exists_cons (digits : Digits) : ∃ c rest, digits.text = c :: rest ∧ c.isDigit = true := by
  obtain ⟨c, rest, htext⟩ := List.exists_cons_of_ne_nil digits.ne_nil
  refine ⟨c, rest, htext, digits.isDigit c ?_⟩
  rw [htext]
  exact List.mem_cons_self

end Digits

/-! ### The text of a number -/

namespace WrittenExponent

/-- The exponent as it is written. -/
def text (exponent : WrittenExponent) : List Char :=
  exponent.mark :: (signText exponent.negative ++ exponent.digits.text)

def value (exponent : WrittenExponent) : Int :=
  signed exponent.negative exponent.digits.value

end WrittenExponent

namespace WrittenNumber

/-- The digits behind the point. -/
def fractionDigits (number : WrittenNumber) : List Char :=
  (number.fraction.map Digits.text).getD []

/-- The fraction as it is written, if there is one. -/
def fractionText (number : WrittenNumber) : List Char :=
  match number.fraction with
  | some digits => '.' :: digits.text
  | none => []

/-- The exponent as it is written, if there is one. -/
def exponentText (number : WrittenNumber) : List Char :=
  (number.exponent.map WrittenExponent.text).getD []

/-- The number as it is written. -/
def text (number : WrittenNumber) : List Char :=
  signText number.negative ++ (number.whole.text ++ (number.fractionText ++ number.exponentText))

/-- The number that is written. -/
def decimal (number : WrittenNumber) : Decimal where
  negative := number.negative
  digits := Decimal.ofDigits (number.whole.text ++ number.fractionDigits)
  exponent := (number.exponent.map WrittenExponent.value).getD 0 - number.fractionDigits.length

/-- The number is written as an integer. -/
def IsInteger (number : WrittenNumber) : Prop :=
  number.fraction = none ∧ number.exponent = none

/-- The integer, of a number that is written as one. -/
def int (number : WrittenNumber) : Int :=
  signed number.negative number.whole.value

variable {number : WrittenNumber}

/-! ### Reading it -/

theorem readSign_signText (negative : Bool) (digits : Digits) (rest : List Char) :
    Decimal.readSign (signText negative ++ (digits.text ++ rest)) =
      (negative, digits.text ++ rest) := by
  cases negative with
  | true => rfl
  | false =>
      obtain ⟨c, others, htext, hc⟩ := digits.exists_cons
      have hminus : c ≠ '-' := by
        rintro rfl
        contradiction
      have hplus : c ≠ '+' := by
        rintro rfl
        contradiction
      rw [htext]
      simp [signText, Decimal.readSign, hminus, hplus]

theorem readInt?_digits (negative : Bool) (digits : Digits) :
    Decimal.readInt? (signText negative ++ digits.text) = some (signed negative digits.value) := by
  have hsign := readSign_signText negative digits []
  rw [List.append_nil] at hsign
  have hne : digits.text.isEmpty = false := List.isEmpty_eq_false_iff.mpr digits.ne_nil
  simp only [Decimal.readInt?, hsign, hne, digits.all_isDigit]
  cases negative <;> rfl

theorem readExponent?_text (exponent : WrittenExponent) :
    Decimal.readExponent? exponent.text = some exponent.value := by
  have hmark : (exponent.mark = 'e' || exponent.mark = 'E') = true := by
    simpa using exponent.isMark
  rw [WrittenExponent.text, Decimal.readExponent?, if_pos hmark]
  exact readInt?_digits exponent.negative exponent.digits

theorem readExponent?_exponentText (number : WrittenNumber) :
    Decimal.readExponent? number.exponentText =
      some ((number.exponent.map WrittenExponent.value).getD 0) := by
  unfold exponentText
  cases number.exponent with
  | none => rfl
  | some exponent => exact readExponent?_text exponent

theorem head_exponentText (number : WrittenNumber) :
    ∀ c ∈ number.exponentText.head?, c.isDigit = false ∧ c ≠ '.' := by
  unfold exponentText
  cases number.exponent with
  | none => simp
  | some exponent =>
      apply Text.forall_head?_cons
      rcases exponent.isMark with hmark | hmark <;> rw [hmark] <;> decide

section Rest

variable {rest : List Char}

/-- Behind the digits of a number and its fraction an exponent is read. -/
theorem read?_append (number : WrittenNumber)
    (hrest : ∀ c ∈ rest.head?, c.isDigit = false ∧ c ≠ '.') :
    Decimal.read? (signText number.negative ++
      (number.whole.text ++ (number.fractionText ++ rest))) =
      (Decimal.readExponent? rest).map fun exponent =>
        ⟨number.negative, Decimal.ofDigits (number.whole.text ++ number.fractionDigits),
          exponent - number.fractionDigits.length⟩ := by
  have hdigit : ∀ c ∈ rest.head?, c.isDigit = false := fun c hc => (hrest c hc).1
  have hwhole : number.whole.text ≠ [] := number.whole.ne_nil
  rw [Decimal.read?, readSign_signText]
  unfold fractionText fractionDigits
  cases hfraction : number.fraction with
  | none =>
      have htaken := Text.takeWhile_run number.whole.isDigit hdigit
      have hleft := Text.dropWhile_run number.whole.isDigit hdigit
      simp only [List.nil_append, htaken, hleft]
      cases rest with
      | nil => simp [hwhole, Decimal.readExponent?]
      | cons c rest =>
          have hpoint : c ≠ '.' := (hrest c rfl).2
          cases hread : Decimal.readExponent? (c :: rest) <;> simp [hwhole, hread, hpoint]
  | some digits =>
      have hstop : ∀ c ∈ ('.' :: (digits.text ++ rest)).head?, c.isDigit = false :=
        Text.forall_head?_cons (by decide) (digits.text ++ rest)
      have htaken := Text.takeWhile_run number.whole.isDigit hstop
      have hleft := Text.dropWhile_run number.whole.isDigit hstop
      simp only [List.cons_append, htaken, hleft, Text.takeWhile_run digits.isDigit hdigit,
        Text.dropWhile_run digits.isDigit hdigit]
      cases hread : Decimal.readExponent? rest <;> simp [hwhole]

theorem readInt?_append (number : WrittenNumber) (hrest : ∀ c ∈ rest.head?, c.isDigit = false) :
    Decimal.readInt? (signText number.negative ++ (number.whole.text ++ rest)) =
      if rest = [] then some number.int else none := by
  cases rest with
  | nil =>
      rw [List.append_nil, if_pos rfl]
      exact readInt?_digits number.negative number.whole
  | cons c rest =>
      have hc : c.isDigit = false := hrest c rfl
      rw [if_neg (List.cons_ne_nil c rest), Decimal.readInt?, readSign_signText]
      simp [hc]

end Rest

/-- Every written number is read as what it stands for. -/
theorem read?_text (number : WrittenNumber) : Decimal.read? number.text = some number.decimal := by
  rw [text, read?_append number number.head_exponentText, readExponent?_exponentText]
  rfl

/-- A number that is written as an integer is read as that integer. -/
theorem readInt?_text (h : number.IsInteger) : Decimal.readInt? number.text = some number.int := by
  have hrest : number.fractionText ++ number.exponentText = [] := by
    simp [fractionText, exponentText, h.1, h.2]
  rw [text, hrest, readInt?_append number (by simp), if_pos rfl]

theorem readInt?_text_of_not_isInteger (h : ¬ number.IsInteger) :
    Decimal.readInt? number.text = none := by
  have hdigit : ∀ c ∈ (number.fractionText ++ number.exponentText).head?, c.isDigit = false := by
    unfold fractionText
    cases number.fraction with
    | none => exact fun c hc => (number.head_exponentText c hc).1
    | some digits => exact Text.forall_head?_cons (by decide) _
  have hrest : number.fractionText ++ number.exponentText ≠ [] := by
    intro hnil
    obtain ⟨hnoFraction, hnoExponent⟩ := List.append_eq_nil_iff.mp hnil
    apply h
    constructor
    · cases hfraction : number.fraction with
      | none => rfl
      | some digits => simp [fractionText, hfraction] at hnoFraction
    · cases hexponent : number.exponent with
      | none => rfl
      | some exponent => simp [exponentText, hexponent, WrittenExponent.text] at hnoExponent
  rw [text, readInt?_append number hdigit, if_neg hrest]

end WrittenNumber

end Dbml
