import Dbml.Proofs.Decimal.Range
import Dbml.Proofs.Decimal.Written
import Dbml.Proofs.Token.Lexemes
import Dbml.Source.Parse

/-!
# Numbers as defaults

The lexer knows no exponents.  It cuts a number into words, digits and dashes, and only a default
puts these together again, with a blank between any two words.  So a number comes back as it was
written, unless it has both a fraction and an exponent: then the fraction ends one word and the
exponent begins another.

* `WrittenNumber.tokens`, `tokenize_written`: the tokens of a number, whatever comes behind it;
* `render_tokens`: their text, which has a blank in it just if the number is split (`isSplit`);
* `number?_text`, `number?_renderedText_of_isSplit`: without the blank it is a number just if it is
  not too large, and with the blank it is none;
* `default_of_written_number`: what a number comes to as the default of a column.
-/

namespace Dbml

open Source

namespace WrittenExponent

/-- The tokens of an exponent that stands behind some digits. -/
def tokens (exponent : WrittenExponent) (digits : List Char) : List Token :=
  if exponent.negative then
    [.ident (String.ofList (digits ++ [exponent.mark])), .dash,
      .num (String.ofList exponent.digits.text)]
  else [.ident (String.ofList (digits ++ exponent.mark :: exponent.digits.text))]

end WrittenExponent

namespace WrittenNumber

/-- The tokens of a number without its sign. -/
def unsignedTokens (number : WrittenNumber) : List Token :=
  match number.fraction, number.exponent with
  | none, none => [.num (String.ofList number.whole.text)]
  | some _, none => [.num (String.ofList (number.whole.text ++ number.fractionText))]
  | none, some exponent => exponent.tokens number.whole.text
  | some _, some exponent =>
    .num (String.ofList (number.whole.text ++ number.fractionText)) :: exponent.tokens []

/-- The tokens of a number. -/
def tokens (number : WrittenNumber) : List Token :=
  (if number.negative then [.dash] else []) ++ number.unsignedTokens

/-- The number has both a fraction and an exponent. -/
def isSplit (number : WrittenNumber) : Bool :=
  number.fraction.isSome && number.exponent.isSome

/-- The text that the tokens of a number make up: a blank separates the two words of one that is
split. -/
def renderedText (number : WrittenNumber) : List Char :=
  signText number.negative ++ (number.whole.text ++ (number.fractionText ++
    ((if number.isSplit then [' '] else []) ++ number.exponentText)))

/-! ### Its tokens -/

variable {number : WrittenNumber} {more : List Char}
  (hmore : ∀ c ∈ more.head?, Text.isWordChar c = false ∧ c ≠ '.')

theorem isWordChar_mark (exponent : WrittenExponent) :
    Text.isWordChar exponent.mark = true ∧ exponent.mark.isDigit = false := by
  rcases exponent.isMark with hmark | hmark <;> rw [hmark] <;> decide

theorem isWordChar_digits (digits : Digits) : ∀ c ∈ digits.text, Text.isWordChar c = true :=
  fun c hc => Lexer.isWordChar_of_isDigit (digits.isDigit c hc)

section Tokens

include hmore

theorem tokenize_digits (digits : Digits) :
    Lexer.tokenize (digits.text ++ more) =
      (.num (String.ofList digits.text) :: (Lexer.tokenize more).1, (Lexer.tokenize more).2) :=
  Lexer.tokenize_of_next (Lexer.next_digits digits.ne_nil digits.all_isDigit hmore) (by simp)

/-- An exponent is one word with the digits in front of it, up to its minus. -/
theorem tokenize_exponent (exponent : WrittenExponent) {front : List Char}
    (hfront : ∀ c ∈ front, Text.isWordChar c = true) :
    Lexer.tokenize (front ++ (exponent.text ++ more)) =
      (exponent.tokens front ++ (Lexer.tokenize more).1, (Lexer.tokenize more).2) := by
  obtain ⟨hmark, hletter⟩ := isWordChar_mark exponent
  unfold WrittenExponent.text WrittenExponent.tokens
  cases exponent.negative with
  | true =>
      have hword : ∀ c ∈ front ++ [exponent.mark], Text.isWordChar c = true := by
        intro c hc
        rcases List.mem_append.mp hc with hfrontMem | hlast
        · exact hfront c hfrontMem
        · rw [List.mem_singleton.mp hlast]
          exact hmark
      have hdash : ∀ c ∈ ('-' :: (exponent.digits.text ++ more)).head?, Text.isWordChar c = false :=
        Text.forall_head?_cons (by decide) (exponent.digits.text ++ more)
      have hfirst := Lexer.next_word hword hdash (by simp) (by simp [hletter])
      have hsecond : Lexer.next ('-' :: (exponent.digits.text ++ more)) =
        (.ok .dash, exponent.digits.text ++ more) :=
        Lexer.next_sign rfl _
      have htext : front ++ (exponent.mark :: (signText true ++ exponent.digits.text) ++ more) =
          front ++ [exponent.mark] ++ '-' :: (exponent.digits.text ++ more) := by
        simp [signText]
      rw [htext, Lexer.tokenize_of_next hfirst (by simp), Lexer.tokenize_of_next hsecond (by simp),
        tokenize_digits hmore]
      rfl
  | false =>
      have hword : ∀ c ∈ front ++ exponent.mark :: exponent.digits.text,
          Text.isWordChar c = true := by
        intro c hc
        rcases List.mem_append.mp hc with hfrontMem | hlast
        · exact hfront c hfrontMem
        · rcases List.mem_cons.mp hlast with rfl | hdigits
          · exact hmark
          · exact isWordChar_digits exponent.digits c hdigits
      have hfirst := Lexer.next_word hword (fun c hc =>
        (hmore c hc).1) (by simp) (by simp [hletter])
      have htext : front ++ (exponent.mark :: (signText false ++ exponent.digits.text) ++ more) =
          front ++ exponent.mark :: exponent.digits.text ++ more := by
        simp [signText]
      rw [htext, Lexer.tokenize_of_next hfirst (by simp)]
      rfl

end Tokens

section Tokens

include hmore

theorem tokenize_unsigned (number : WrittenNumber) :
    Lexer.tokenize (number.whole.text ++ (number.fractionText ++ number.exponentText) ++ more) =
      (number.unsignedTokens ++ (Lexer.tokenize more).1, (Lexer.tokenize more).2) := by
  have hdigit : ∀ c ∈ more.head?, c.isDigit = false :=
    fun c hc => Lexer.isDigit_of_not_isWordChar (hmore c hc).1
  unfold unsignedTokens fractionText exponentText
  cases number.fraction with
  | none =>
      cases number.exponent with
      | none =>
          rw [Option.map_none, Option.getD_none, List.append_nil, List.append_nil]
          exact tokenize_digits hmore number.whole
      | some exponent =>
          rw [Option.map_some, Option.getD_some, List.nil_append, List.append_assoc]
          exact tokenize_exponent hmore exponent (isWordChar_digits number.whole)
  | some fraction =>
      cases number.exponent with
      | none =>
          have hnext := Lexer.next_fraction number.whole fraction hdigit
          rw [Option.map_none, Option.getD_none, List.append_nil, List.append_assoc,
            List.cons_append, Lexer.tokenize_of_next hnext (by simp)]
          rfl
      | some exponent =>
          have hmark : ∀ c ∈ (exponent.text ++ more).head?, c.isDigit = false :=
            Text.forall_head?_cons (isWordChar_mark exponent).2 _
          have hnext := Lexer.next_fraction number.whole fraction hmark
          have hexponent := tokenize_exponent hmore exponent (List.forall_mem_nil _)
          rw [List.nil_append] at hexponent
          rw [Option.map_some, Option.getD_some, List.append_assoc, List.append_assoc,
            List.cons_append, Lexer.tokenize_of_next hnext (by simp), hexponent]
          rfl

theorem tokenize_written (number : WrittenNumber) :
    Lexer.tokenize (number.text ++ more) =
      (number.tokens ++ (Lexer.tokenize more).1, (Lexer.tokenize more).2) := by
  have hunsigned := tokenize_unsigned hmore number
  unfold text tokens signText
  cases number.negative with
  | false => exact hunsigned
  | true =>
      have hdash : Lexer.next ('-' ::
        (number.whole.text ++ (number.fractionText ++ number.exponentText) ++ more)) =
          (.ok .dash, number.whole.text ++ (number.fractionText ++ number.exponentText) ++ more) :=
        Lexer.next_sign rfl _
      show Lexer.tokenize ('-' ::
        (number.whole.text ++ (number.fractionText ++ number.exponentText) ++ more)) = _
      rw [Lexer.tokenize_of_next hdash (by simp), hunsigned]
      rfl

end Tokens

/-! ### Their text -/

theorem renderAfter_exponent (exponent : WrittenExponent) (digits : List Char) (afterWord : Bool) :
    Token.renderAfter afterWord (exponent.tokens digits) =
      (if afterWord then [' '] else []) ++ (digits ++ exponent.text) := by
  unfold WrittenExponent.tokens WrittenExponent.text signText
  cases exponent.negative <;> simp [Token.renderAfter, Token.isWord, Token.text]

theorem render_tokens (number : WrittenNumber) :
    Token.render number.tokens = String.ofList number.renderedText := by
  have hunsigned : Token.renderAfter false number.unsignedTokens =
      number.whole.text ++ (number.fractionText ++
        ((if number.isSplit then [' '] else []) ++ number.exponentText)) := by
    unfold unsignedTokens fractionText exponentText isSplit
    cases number.fraction with
    | none =>
        cases number.exponent with
        | none => simp [Token.renderAfter, Token.text]
        | some exponent => simp [renderAfter_exponent]
    | some fraction =>
        cases number.exponent with
        | none => simp [Token.renderAfter, Token.text]
        | some exponent => simp [Token.renderAfter, Token.text, Token.isWord, renderAfter_exponent]
  unfold Token.render renderedText tokens signText
  cases number.negative with
  | false => exact congrArg String.ofList hunsigned
  | true =>
      show String.ofList ('-' :: Token.renderAfter false number.unsignedTokens) = _
      rw [hunsigned]
      rfl

theorem renderedText_of_not_isSplit (h : number.isSplit = false) :
    number.renderedText = number.text := by
  simp [renderedText, text, h]

/-! ### What is read from it -/

theorem magnitude_lt_of_int (hinteger : number.IsInteger) (hmin : minInteger ≤ number.int)
    (hmax : number.int ≤ maxInteger) : number.decimal.magnitude < Binary64.overflow := by
  have hvalue : number.whole.value ≤ 2 ^ 63 := by
    unfold int signed at hmin hmax
    unfold minInteger at hmin
    unfold maxInteger at hmax
    split_ifs at hmin hmax <;> omega
  have hmagnitude : number.decimal.magnitude = number.whole.value := by
    simp [Decimal.magnitude, decimal, fractionDigits, hinteger.1, hinteger.2, Digits.value]
  rw [hmagnitude]
  calc (number.whole.value : ℚ) ≤ 2 ^ 63 := by exact_mod_cast hvalue
    _ < 2 ^ (1023 : ℤ) := by
        rw [← zpow_natCast]
        exact zpow_lt_zpow_right₀ (by norm_num) (by norm_num)
    _ ≤ Binary64.overflow := Binary64.overflow_bounds.1

theorem number?_text_of_int (hinteger : number.IsInteger) (hmin : minInteger ≤ number.int)
    (hmax : number.int ≤ maxInteger) : number? number.text = some (.int number.int) := by
  simp [number?, readInt?_text hinteger, Option.filter_some, hmin, hmax]

/-- In one piece, a number is read just if it is not too large. -/
theorem number?_text (number : WrittenNumber) :
    (number? number.text).isSome = true ↔ number.decimal.magnitude < Binary64.overflow := by
  by_cases hint : number.IsInteger ∧ minInteger ≤ number.int ∧ number.int ≤ maxInteger
  · obtain ⟨hinteger, hmin, hmax⟩ := hint
    rw [number?_text_of_int hinteger hmin hmax]
    exact iff_of_true rfl (magnitude_lt_of_int hinteger hmin hmax)
  -- what is no integer of 64 bits is read as a decimal
  · have hnone : (Decimal.readInt? number.text).filter (fun n => minInteger ≤ n && n ≤ maxInteger) =
        none := by
      by_cases hinteger : number.IsInteger
      · rw [readInt?_text hinteger, Option.filter_some, if_neg]
        simpa [hinteger] using hint
      · rw [readInt?_text_of_not_isInteger hinteger]
        rfl
    rw [number?, hnone, read?_text, Option.bind_some, Option.isSome_map,
      Binary64.ofDecimal?_isSome_iff]

/-- With a blank in it, a number is none. -/
theorem number?_renderedText_of_isSplit (h : number.isSplit = true) :
    number? number.renderedText = none := by
  obtain ⟨hfraction, -⟩ := Bool.and_eq_true_iff.mp h
  obtain ⟨fraction, hfraction⟩ := Option.isSome_iff_exists.mp hfraction
  have hpoint : ∀ c ∈ (number.fractionText ++ ' ' :: number.exponentText).head?,
      c.isDigit = false := by
    rw [fractionText, hfraction]
    exact Text.forall_head?_cons (by decide) _
  have hblank : ∀ c ∈ (' ' :: number.exponentText).head?, c.isDigit = false ∧ c ≠ '.' :=
    Text.forall_head?_cons (by decide) number.exponentText
  have hint : Decimal.readInt? number.renderedText = none := by
    rw [renderedText, if_pos h, List.singleton_append, readInt?_append number hpoint,
      if_neg (by simp)]
  have hread : Decimal.read? number.renderedText = none := by
    rw [renderedText, if_pos h, List.singleton_append, read?_append number hblank]
    rfl
  rw [number?, hint, hread]
  rfl

/-! ### The default -/

theorem toLower_of_isDigit {c : Char} (hc : c.isDigit = true) : c.toLower = c := by
  simp only [Char.isDigit, Bool.and_eq_true, decide_eq_true_eq] at hc
  unfold Char.toLower
  rw [dif_neg]
  rintro ⟨hletter, -⟩
  exact absurd (UInt32.le_trans hletter hc.2) (by decide)

theorem isKeyword_of_digit {keyword : String} {c : Char} {rest : List Char} (hc : c.isDigit = true)
    (hkeyword : (keyword.toList.map Char.toLower).head?.any Char.isDigit = false) :
    (Token.ident (String.ofList (c :: rest))).isKeyword keyword = false := by
  apply beq_eq_false_iff_ne.mpr
  intro hsame
  rw [String.toList_ofList, List.map_cons, toLower_of_isDigit hc] at hsame
  rw [← hsame, List.head?_cons, Option.any_some, hc] at hkeyword
  contradiction

/-- A number is one token, or else the default has several. -/
theorem tokens_cases (number : WrittenNumber) :
    (∃ text, number.tokens = [.num text]) ∨
      (∃ rest, number.tokens = [.ident (String.ofList (number.whole.text ++ rest))]) ∨
      ∃ first second rest, number.tokens = first :: second :: rest := by
  unfold tokens unsignedTokens WrittenExponent.tokens
  cases number.negative with
  | true =>
      refine .inr (.inr ?_)
      cases number.fraction with
      | none =>
          cases number.exponent with
          | none => exact ⟨_, _, _, rfl⟩
          | some exponent => cases hminus : exponent.negative <;> simp [hminus]
      | some fraction => cases number.exponent <;> exact ⟨_, _, _, rfl⟩
  | false =>
      cases number.fraction with
      | none =>
          cases number.exponent with
          | none => exact .inl ⟨_, rfl⟩
          | some exponent =>
              cases hminus : exponent.negative with
              | true => simp [hminus]
              | false => exact .inr (.inl ⟨exponent.mark :: exponent.digits.text, by simp [hminus]⟩)
      | some fraction =>
          cases number.exponent with
          | none => exact .inl ⟨_, rfl⟩
          | some exponent => cases hminus : exponent.negative <;> simp [hminus]

theorem defaultValue?_tokens (number : WrittenNumber) :
    defaultValue? number.tokens = some (unquotedDefault number.tokens) := by
  rcases number.tokens_cases with ⟨text, htokens⟩ | ⟨rest, htokens⟩ | ⟨first, second, rest, htokens⟩
  · rw [htokens]
    rfl
  · obtain ⟨c, others, htext, hc⟩ := number.whole.exists_cons
    rw [htokens, htext, List.cons_append, defaultValue?, isKeyword_of_digit hc (by decide),
      isKeyword_of_digit hc (by decide)]
    · rfl
    · simp
  · rw [htokens]
    cases first <;> rfl

theorem unquotedDefault_of_some {n : Json.Number} (h : number? number.renderedText = some n) :
    unquotedDefault number.tokens = .number n := by
  rw [unquotedDefault, render_tokens, String.toList_ofList]
  simp only [h]

theorem unquotedDefault_of_none (h : number? number.renderedText = none) :
    unquotedDefault number.tokens = .text (String.ofList number.renderedText) := by
  rw [unquotedDefault, render_tokens, String.toList_ofList]
  simp only [h]

/-- The default is a number just if the number is in one piece and not too large. -/
theorem unquotedDefault_eq_number_iff (number : WrittenNumber) :
    (∃ n, unquotedDefault number.tokens = .number n) ↔
      number.isSplit = false ∧ number.decimal.magnitude < Binary64.overflow := by
  cases hsplit : number.isSplit with
  | true =>
      rw [unquotedDefault_of_none (number?_renderedText_of_isSplit hsplit)]
      simp
  | false =>
      rw [← number?_text, ← renderedText_of_not_isSplit hsplit]
      cases hread : number? number.renderedText with
      | none => simp [unquotedDefault_of_none hread]
      | some n => simp [unquotedDefault_of_some hread]

theorem applySetting_default {key : String} {value : List Token} {default : DefaultValue}
    (hkey : Text.lowercaseString key = "default") (hvalue : defaultValue? value = some default)
    (column : Column) :
    applySetting column (.ident key :: .colon :: value) =
      { column with default := some default } := by
  show applyKeyedSetting column key value = { column with default := some default }
  unfold applyKeyedSetting
  simp only [hkey, hvalue]

/-- **Numbers as defaults.**  In the settings of a column, the tokens of `default: number` set the
default of the column.  It is a number just if the number does not have both a fraction and an
exponent, and is not too large; an integer of 64 bits is that integer.  With both a fraction and an
exponent the default is a text, which has a blank between them. -/
theorem default_of_written_number (number : WrittenNumber) {front : List Char}
    {tokens : List Token} {key : String}
    (hfront : Lexer.tokenize front = (tokens ++ [.ident key, .colon] ++ [.endOfText], none))
    (hcomment : Lexer.hasComment none front = false) (hkey : Text.lowercaseString key = "default")
    (hmore : ∀ c ∈ more.head?, Text.isWordChar c = false ∧ c ≠ '.') :
    ∃ value default,
      Lexer.tokenize (front ++ ' ' :: (number.text ++ more)) =
        (tokens ++ .ident key :: .colon :: value ++ (Lexer.tokenize more).1,
          (Lexer.tokenize more).2) ∧
      (∀ column, applySetting column (.ident key :: .colon :: value) =
        { column with default := some default }) ∧
      ((∃ n, default = .number n) ↔
        number.isSplit = false ∧ number.decimal.magnitude < Binary64.overflow) ∧
      (number.IsInteger → minInteger ≤ number.int → number.int ≤ maxInteger →
        default = .number (.int number.int)) ∧
      (number.isSplit = true → default = .text (String.ofList number.renderedText)) := by
  refine ⟨number.tokens, unquotedDefault number.tokens, ?_,
    applySetting_default hkey number.defaultValue?_tokens, number.unquotedDefault_eq_number_iff,
    fun hinteger hmin hmax => ?_, fun hsplit => ?_⟩
  · have hblank : ∀ c ∈ (' ' :: (number.text ++ more)).head?, Text.isBlank c = true :=
      Text.forall_head?_cons (by decide) (number.text ++ more)
    have hnumber : Lexer.tokenize (' ' :: (number.text ++ more)) =
        (number.tokens ++ (Lexer.tokenize more).1, (Lexer.tokenize more).2) :=
      (Lexer.tokenize_congr (Lexer.next_blank (by decide) _)).trans (tokenize_written hmore number)
    rw [Lexer.tokenize_append hfront hcomment hblank, hnumber]
    simp
  · have hwhole : number.isSplit = false := by
      simp [isSplit, hinteger.1]
    apply unquotedDefault_of_some
    rw [renderedText_of_not_isSplit hwhole, number?_text_of_int hinteger hmin hmax]
  · exact unquotedDefault_of_none (number?_renderedText_of_isSplit hsplit)

theorem magnitude_lt_of_le {d : Decimal} (h : d.magnitude ≤ 2 ^ (11 : ℤ)) :
    d.magnitude < Binary64.overflow := by
  calc d.magnitude ≤ 2 ^ (11 : ℤ) := h
    _ < 2 ^ (1023 : ℤ) := zpow_lt_zpow_right₀ (by norm_num) (by norm_num)
    _ ≤ Binary64.overflow := Binary64.overflow_bounds.1

/-- The number `-12e-3`. -/
def smallNumber : WrittenNumber where
  negative := true
  whole := ⟨"12".toList, by decide, List.all_eq_true.mp (by decide)⟩
  fraction := none
  exponent := some ⟨'e', true, ⟨"3".toList, by decide, List.all_eq_true.mp (by decide)⟩, by decide⟩

theorem magnitude_smallNumber : smallNumber.decimal.magnitude < Binary64.overflow := by
  have hdecimal : smallNumber.decimal = ⟨true, 12, -3⟩ := by decide
  apply magnitude_lt_of_le
  rw [hdecimal]
  norm_num [Decimal.magnitude]

/-- Behind another spelling of the key, the number is the default. -/
theorem default_of_written_number_of_smallNumber :
    smallNumber.isSplit = false ∧ smallNumber.decimal.magnitude < Binary64.overflow ∧
      ∃ value n,
        (Lexer.tokenize "price float [DEFAULT: -12e-3]".toList).1 =
          [.ident "price", .ident "float", .leftBracket, .ident "DEFAULT", .colon] ++ value ++
            [.rightBracket, .endOfText] ∧
        ∀ column, applySetting column (.ident "DEFAULT" :: .colon :: value) =
          { column with default := some (.number n) } := by
  have hfront : Lexer.tokenize "price float [DEFAULT:".toList =
      ([.ident "price", .ident "float", .leftBracket] ++ [.ident "DEFAULT", .colon] ++ [.endOfText],
        none) := by
    with_unfolding_all rfl
  have hbehind : (Lexer.tokenize "]".toList).1 = [.rightBracket, .endOfText] := by
    with_unfolding_all rfl
  have hstop : ∀ c ∈ "]".toList.head?, Text.isWordChar c = false ∧ c ≠ '.' :=
    Text.forall_head?_cons (c := ']') (by decide) []
  obtain ⟨value, default, hlexed, hset, hnumber, -⟩ :=
    default_of_written_number smallNumber hfront (by decide) (by decide) hstop
  obtain ⟨n, rfl⟩ := hnumber.mpr ⟨rfl, magnitude_smallNumber⟩
  refine ⟨rfl, magnitude_smallNumber, value, n, ?_, hset⟩
  have htext : "price float [DEFAULT: -12e-3]".toList =
      "price float [DEFAULT:".toList ++ ' ' :: (smallNumber.text ++ "]".toList) := by
    decide
  rw [htext, hlexed, hbehind]
  simp

/-- The number `1.5e3`. -/
def splitNumber : WrittenNumber where
  negative := false
  whole := ⟨"1".toList, by decide, List.all_eq_true.mp (by decide)⟩
  fraction := some ⟨"5".toList, by decide, List.all_eq_true.mp (by decide)⟩
  exponent := some ⟨'e', false, ⟨"3".toList, by decide, List.all_eq_true.mp (by decide)⟩, by decide⟩

/-- **A number with a fraction and an exponent is a text.**  The number itself would be read; but
what its tokens make up is no number. -/
theorem default_of_splitNumber_is_text :
    splitNumber.text = "1.5e3".toList ∧ splitNumber.decimal.magnitude = 1500 ∧
      splitNumber.decimal.magnitude < Binary64.overflow ∧ (number? splitNumber.text).isSome = true ∧
      (parse .lenient "Table t \x7b\n  a float [default: 1.5e3]\n\x7d".toList).outcome =
        .ok { tables := [{
          name := "t"
          columns := [{ name := "a", type := "float", default := some (.text "1.5 e3") }] }] } := by
  have hdecimal : splitNumber.decimal = ⟨false, 15, 2⟩ := by decide
  have hmagnitude : splitNumber.decimal.magnitude = 1500 := by
    rw [hdecimal]
    norm_num [Decimal.magnitude]
  have hsmall : splitNumber.decimal.magnitude < Binary64.overflow := by
    apply magnitude_lt_of_le
    rw [hmagnitude]
    norm_num
  refine ⟨by decide, hmagnitude, hsmall, (number?_text splitNumber).mpr hsmall, ?_⟩
  with_unfolding_all rfl

end WrittenNumber

end Dbml
