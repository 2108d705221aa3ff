import Dbml.Proofs.Decimal.Written
import Dbml.Proofs.Token.Concatenation

/-!
# Tokens and what they are cut from

Outside of quotes and comments the lexer loses nothing but blanks, and it makes nothing up: the
texts of the tokens, one behind the other, are the text without its blanks, up to the character at
which the lexer fails.

* `Token.IsLexeme`: the tokens that there are, by their texts;
* `isLexeme_of_next`: one step of the lexer gives such a token, and `exists_lexemes`: so does a
  whole run, up to the end of the text;
* `takeToken_cases`: outside of quotes the text of a token and what is left behind it are what was
  there;
* `filter_skipBlanks`: only blanks are skipped where no comment begins;
* `tokenize_keeps_text`: what this comes to over a whole text.
-/

namespace Dbml

/-- Digits, and perhaps a point with digits behind it. -/
inductive IsNumeral : List Char → Prop
  | whole (digits : Digits) : IsNumeral digits.text
  | decimal (whole fraction : Digits) : IsNumeral (whole.text ++ '.' :: fraction.text)

/-- A token in front of the end of a text.  What is not only digits is a word and no number. -/
def Token.IsLexeme : Token → Prop
  | .ident text =>
    text.toList ≠ [] ∧ (∀ c ∈ text.toList, Text.isWordChar c = true) ∧
      ¬ ∀ c ∈ text.toList, c.isDigit = true
  | .num text => IsNumeral text.toList
  | .endOfText => False
  | _ => True

theorem Token.IsLexeme.ne_end {token : Token} (h : token.IsLexeme) : token ≠ .endOfText := by
  rintro rfl
  exact h

namespace Lexer

open Text

variable {text rest : List Char} {c : Char} {token : Token}

/-! ### What tokens look like -/

theorem takeFraction_cases (text : List Char) :
    (takeFraction text).1 = [] ∨ ∃ digits : Digits, (takeFraction text).1 = '.' :: digits.text := by
  fun_cases takeFraction text with
  | case1 c rest hc =>
      have hdigits : ∀ other ∈ c :: rest.takeWhile Char.isDigit, other.isDigit = true :=
        List.forall_mem_cons.mpr ⟨hc, List.all_eq_true.mp List.all_takeWhile⟩
      exact .inr ⟨⟨c :: rest.takeWhile Char.isDigit, List.cons_ne_nil _ _, hdigits⟩, rfl⟩
  | case2 => exact .inl rfl
  | case3 => exact .inl rfl

theorem takeFraction_digits (fraction : Digits) (hrest : ∀ c ∈ rest.head?, c.isDigit = false) :
    takeFraction ('.' :: (fraction.text ++ rest)) = ('.' :: fraction.text, rest) := by
  obtain ⟨c, others, htext, hc⟩ := fraction.exists_cons
  have hothers : ∀ other ∈ others, other.isDigit = true := by
    intro other hother
    apply fraction.isDigit
    rw [htext]
    exact List.mem_cons_of_mem c hother
  rw [htext, List.cons_append, takeFraction, if_pos hc, takeWhile_run hothers hrest,
    dropWhile_run hothers hrest]

theorem next_fraction (whole fraction : Digits) (hrest : ∀ c ∈ rest.head?, c.isDigit = false) :
    next (whole.text ++ '.' :: (fraction.text ++ rest)) =
      (.ok (.num (String.ofList (whole.text ++ '.' :: fraction.text))), rest) := by
  have hpoint : ∀ c ∈ ('.' :: (fraction.text ++ rest)).head?, isWordChar c = false :=
    forall_head?_cons (by decide) (fraction.text ++ rest)
  rw [next_number whole.ne_nil whole.all_isDigit hpoint, takeFraction_digits fraction hrest]

theorem isLexeme_takeWord (hc : isWordChar c = true) (rest : List Char) :
    (takeWord (c :: rest)).1.IsLexeme := by
  have hne : (c :: rest).takeWhile isWordChar ≠ [] := by simp [hc]
  simp only [takeWord]
  split
  · rename_i hdigits
    have hnumeral : IsNumeral ((c :: rest).takeWhile isWordChar ++
        (takeFraction ((c :: rest).dropWhile isWordChar)).1) := by
      let digits : Digits := ⟨(c :: rest).takeWhile isWordChar, hne, List.all_eq_true.mp hdigits⟩
      rcases takeFraction_cases ((c :: rest).dropWhile isWordChar) with
        hnone | ⟨fraction, hfraction⟩
      · rw [hnone, List.append_nil]
        exact .whole digits
      · rw [hfraction]
        exact .decimal digits fraction
    rwa [Token.IsLexeme, String.toList_ofList]
  · rename_i hdigits
    rw [Token.IsLexeme, String.toList_ofList]
    exact ⟨hne, List.all_eq_true.mp List.all_takeWhile, fun hall =>
      hdigits (List.all_eq_true.mpr hall)⟩

theorem isLexeme_of_sign (h : sign? c = some token) : token.IsLexeme := by
  unfold sign? at h
  split at h
  all_goals first | contradiction | (cases h; trivial)

theorem isLexeme_takeToken (h : takeToken c text = (.ok token, rest)) : token.IsLexeme := by
  rw [takeToken_eq_iff] at h
  cases h with
  | sign hsign => exact isLexeme_of_sign hsign
  | string => trivial
  | word hword => exact isLexeme_takeWord hword text

theorem isLexeme_of_next (h : next text = (.ok token, rest)) (hend : token ≠ .endOfText) :
    token.IsLexeme := by
  unfold next at h
  split at h
  · cases h
    contradiction
  · exact isLexeme_takeToken h

theorem exists_lexemes (text : List Char) :
    ∃ tokens, (tokenize text).1 = tokens ++ [.endOfText] ∧ ∀ token ∈ tokens, token.IsLexeme := by
  fun_induction tokenize text with
  | case1 => exact ⟨[], rfl, List.forall_mem_nil _⟩
  | case2 => exact ⟨[], rfl, List.forall_mem_nil _⟩
  | case3 text token hresult hend others failure hothers ih =>
      obtain ⟨tokens, htokens, hlexemes⟩ := ih
      rw [hothers] at htokens
      have hfirst : token.IsLexeme := isLexeme_of_next (Prod.ext hresult rfl) hend
      exact ⟨token :: tokens, congrArg (token :: ·) htokens,
        List.forall_mem_cons.mpr ⟨hfirst, hlexemes⟩⟩

/-! ### What tokens are cut from -/

/-- Outside of quotes a token is cut off as it is, unless the character begins none. -/
theorem takeToken_cases (hquote : isQuote c = false) (text : List Char) :
    (∃ token rest, takeToken c text = (.ok token, rest) ∧ (∀ inner, token ≠ .str inner) ∧
      token.text ++ rest = c :: text) ∨
    takeToken c text = (.error (.unexpectedChar c), text) := by
  have htakes := takes_takeToken c text
  generalize takeToken c text = result at htakes ⊢
  cases htakes with
  | sign hsign =>
      have htext := text_of_sign hsign
      refine .inl ⟨_, text, rfl, ?_, by rw [htext]; rfl⟩
      rintro inner rfl
      simp [Token.text] at htext
  | string hisQuote | openString hisQuote =>
      rw [hquote] at hisQuote
      contradiction
  | word =>
      refine .inl ⟨_, _, rfl, ?_, text_takeWord (c :: text)⟩
      intro inner
      simp only [takeWord]
      split <;> simp
  | unexpected => exact .inr rfl

theorem isBlank_of_mem_text (h : token.IsLexeme) (hstring : ∀ inner, token ≠ .str inner)
    (hc : c ∈ token.text) :
    isBlank c = false := by
  have hdigits (digits : Digits) (hmem : c ∈ digits.text) : isBlank c = false :=
    isBlank_of_isWordChar (isWordChar_of_isDigit (digits.isDigit c hmem))
  cases token with
  | ident word => exact isBlank_of_isWordChar (h.2.1 c hc)
  | num number =>
      rw [Token.text] at hc
      rw [Token.IsLexeme] at h
      generalize number.toList = written at h hc
      cases h with
      | whole digits => exact hdigits digits hc
      | decimal whole fraction =>
          rw [List.mem_append, List.mem_cons] at hc
          rcases hc with hwhole | rfl | hfraction
          · exact hdigits whole hwhole
          · decide
          · exact hdigits fraction hfraction
  | str inner => exact absurd rfl (hstring inner)
  | endOfText => exact absurd h id
  | _ =>
      obtain rfl := List.mem_singleton.mp hc
      decide

/-! ### What is skipped -/

theorem skipBlanks_suffix (text : List Char) : skipBlanks text <:+ text := by
  fun_induction skipBlanks text with
  | case1 => exact List.suffix_rfl
  | case2 c rest _ ih => exact ih.trans (List.suffix_cons c rest)
  | case3 => exact List.nil_suffix
  | case4 => exact List.suffix_rfl

theorem isBlank_of_skipBlanks (h : skipBlanks text = c :: rest) : isBlank c = false := by
  fun_induction skipBlanks text with
  | case1 => contradiction
  | case2 first tail hblank ih => exact ih h
  | case3 => contradiction
  | case4 first tail hblank =>
      cases h
      simpa using hblank

/-- Only blanks are skipped where no comment begins. -/
theorem filter_skipBlanks (hslashes : ¬ ['/', '/'] <:+: text) :
    (skipBlanks text).filter (!isBlank ·) = text.filter (!isBlank ·) := by
  fun_induction skipBlanks text with
  | case1 => rfl
  | case2 c rest hblank ih =>
      rw [ih fun hothers => hslashes (hothers.trans (List.suffix_cons c rest).isInfix)]
      simp [hblank]
  | case3 c rest hblank hcomment =>
      simp only [Bool.and_eq_true, decide_eq_true_eq] at hcomment
      obtain ⟨rfl, hsecond⟩ := hcomment
      obtain ⟨behind, rfl⟩ := List.head?_eq_some_iff.mp hsecond
      exact absurd (List.prefix_append ['/', '/'] behind).isInfix hslashes
  | case4 => rfl

/-! ### Texts without quotes and comments -/

/-- A step of the lexer finds nothing but blanks, or a character that it cannot read, or a token,
which is all that has been taken away, blanks apart. -/
theorem next_cases (hquote : ∀ c ∈ text, isQuote c = false) (hslashes : ¬ ['/', '/'] <:+: text) :
    skipBlanks text = [] ∧ text.filter (!isBlank ·) = [] ∨
    (∃ c, (next text).1 = .error (.unexpectedChar c) ∧ [c] <+: text.filter (!isBlank ·)) ∨
    ∃ token rest, next text = (.ok token, rest) ∧ token ≠ .endOfText ∧ rest <:+ text ∧
      token.text ++ rest.filter (!isBlank ·) = text.filter (!isBlank ·) := by
  have hsuffix := skipBlanks_suffix text
  rw [← filter_skipBlanks hslashes, next]
  cases hskip : skipBlanks text with
  | nil => exact .inl ⟨rfl, rfl⟩
  | cons c tail =>
      rw [hskip] at hsuffix
      rcases takeToken_cases (hquote c (hsuffix.subset List.mem_cons_self)) tail with
        ⟨token, rest, htoken, hstring, hsplit⟩ | herror
      · have hlexeme := isLexeme_takeToken htoken
        have hkept : token.text.filter (!isBlank ·) = token.text :=
          List.filter_eq_self.mpr fun other hother => by
            simp [isBlank_of_mem_text hlexeme hstring hother]
        refine .inr (.inr ⟨token, rest, htoken, hlexeme.ne_end, ?_, ?_⟩)
        · rw [← hsplit] at hsuffix
          exact (List.suffix_append token.text rest).trans hsuffix
        · rw [← hsplit, List.filter_append, hkept]
      · have hfirst : (c :: tail).filter (!isBlank ·) = c :: tail.filter (!isBlank ·) :=
          List.filter_cons_of_pos (by simp [isBlank_of_skipBlanks hskip])
        refine .inr (.inl ⟨c, congrArg Prod.fst herror, ?_⟩)
        rw [hfirst]
        exact List.prefix_append [c] (tail.filter (!isBlank ·))

/-- The texts of the tokens are the text without its blanks, up to the character at which the lexer
fails. -/
theorem text_of_tokenize {text : List Char} (hquote : ∀ c ∈ text, isQuote c = false)
    (hslashes : ¬ ['/', '/'] <:+: text) :
    (tokenize text).2 = none ∧ (tokenize text).1.flatMap Token.text = text.filter (!isBlank ·) ∨
    ∃ c, (tokenize text).2 = some (.unexpectedChar c) ∧
      (tokenize text).1.flatMap Token.text ++ [c] <+: text.filter (!isBlank ·) := by
  rcases next_cases hquote hslashes with
    ⟨hskip, hblanks⟩ | ⟨c, herror, hfirst⟩ | ⟨token, rest, hnext, hend, hsuffix, hsplit⟩
  · rw [tokenize_of_skipBlanks hskip, hblanks]
    exact .inl ⟨rfl, rfl⟩
  · rw [tokenize_of_error herror]
    exact .inr ⟨c, rfl, hfirst⟩
  · have hothers := text_of_tokenize (fun c hc => hquote c (hsuffix.subset hc))
      fun hbehind => hslashes (hbehind.trans hsuffix.isInfix)
    rw [tokenize_of_next hnext hend, ← hsplit, List.flatMap_cons]
    rcases hothers with ⟨hnone, htext⟩ | ⟨c, herror, hfront⟩
    · exact .inl ⟨hnone, congrArg (token.text ++ ·) htext⟩
    · refine .inr ⟨c, herror, ?_⟩
      rw [List.append_assoc]
      exact (List.prefix_append_right_inj token.text).mpr hfront
termination_by text.length
decreasing_by
  have hshorter : (next text).2.length < text.length :=
    next_length (by rw [hnext]; simpa using hend)
  rwa [hnext] at hshorter

/-- **The lexer neither loses nor makes up anything.**  The tokens of a text are words, numbers,
strings and signs, with the end of the text behind them.  Without quotes and comments they are the
text without its blanks, up to the character at which the lexer fails. -/
theorem tokenize_keeps_text (text : List Char) :
    (∃ tokens, (tokenize text).1 = tokens ++ [.endOfText] ∧ ∀ token ∈ tokens, token.IsLexeme) ∧
    ((∀ c ∈ text, isQuote c = false) → ¬ ['/', '/'] <:+: text →
      (tokenize text).2 = none ∧ (tokenize text).1.flatMap Token.text = text.filter (!isBlank ·) ∨
      ∃ c, (tokenize text).2 = some (.unexpectedChar c) ∧
        (tokenize text).1.flatMap Token.text ++ [c] <+: text.filter (!isBlank ·)) :=
  ⟨exists_lexemes text, text_of_tokenize⟩

/-- With a number that has a point, one that has none, and a slash that begins no comment. -/
theorem tokenize_keeps_text_of_fraction :
    (∀ c ∈ "1.50 2. 3st / x".toList, isQuote c = false) ∧
      ¬ ['/', '/'] <:+: "1.50 2. 3st / x".toList ∧
      (tokenize "1.50 2. 3st / x".toList).2 = some (.unexpectedChar '/') ∧
      (tokenize "1.50 2. 3st / x".toList).1.flatMap Token.text ++ ['/'] <+:
        "1.50 2. 3st / x".toList.filter (!isBlank ·) := by
  have hquote : ∀ c ∈ "1.50 2. 3st / x".toList, isQuote c = false := by simp [isQuote]
  have hslashes : ¬ ['/', '/'] <:+: "1.50 2. 3st / x".toList := by decide +kernel
  have herror : (tokenize "1.50 2. 3st / x".toList).2 = some (.unexpectedChar '/') := by
    decide +kernel
  refine ⟨hquote, hslashes, herror, ?_⟩
  rcases (tokenize_keeps_text "1.50 2. 3st / x".toList).2 hquote hslashes with
    ⟨hnone, -⟩ | ⟨c, hc, hfront⟩
  · exact absurd (hnone.symm.trans herror) (Option.some_ne_none _).symm
  · rw [herror] at hc
    cases hc
    exact hfront

end Lexer

end Dbml
