import Mathlib.Tactic.IntervalCases
import Dbml.Token.Lexer

/-!
# What the lexer does with what comes next

A token is read off the front of a text.  `Takes` lists what can be there, with what it comes to and
what is left behind it, and just one of it is (`takeToken_eq_iff`).  For each kind of token this
file says what the text looks like, in terms of `Lexer.next`:

* `next_sign`: a sign is one character, whatever follows;
* `next_word`, `next_digits`: a word or a number ends at the first character that cannot belong to
  it;
* `next_number`: a number has the decimal part that stands behind its digits;
* `next_quote`, `next_open_quote`: a quoted string ends at its closing quote, and takes the whole
  text with it if there is none.

A whole text is its first token and the tokens of the rest (`tokenize_of_next`,
`tokenize_eq_cons_iff`).
-/

namespace Dbml

/-! ### Runs of characters -/

namespace Text

theorem forall_head?_cons {p : Char → Prop} {c : Char} (h : p c) (rest : List Char) :
    ∀ other ∈ (c :: rest).head?, p other := by
  intro other hother
  rwa [← Option.some.inj hother]

theorem takeWhile_append_stop {p : Char → Bool} {more : List Char}
    (hmore : ∀ c ∈ more.head?, p c = false) (text : List Char) :
    (text ++ more).takeWhile p = text.takeWhile p ∧
      (text ++ more).dropWhile p = text.dropWhile p ++ more := by
  induction text with
  | nil =>
      cases more with
      | nil => exact ⟨rfl, rfl⟩
      | cons c more => simp [hmore c rfl]
  | cons c text ih =>
      cases hc : p c with
      | false => simp [hc]
      | true => simpa [hc] using ih

variable {p : Char → Bool} {run rest : List Char} (hrun : ∀ c ∈ run, p c = true)
  (hrest : ∀ c ∈ rest.head?, p c = false)

include hrun hrest

theorem takeWhile_run : (run ++ rest).takeWhile p = run := by
  rw [List.takeWhile_append_of_pos hrun]
  cases rest with
  | nil => simp
  | cons c rest => simp [hrest c rfl]

theorem dropWhile_run : (run ++ rest).dropWhile p = rest := by
  rw [List.dropWhile_append_of_pos hrun]
  cases rest with
  | nil => simp
  | cons c rest => simp [hrest c rfl]

end Text

namespace Lexer

open Text

/-! ### Kinds of characters -/

theorem isWordChar_of_isBlank {c : Char} (h : isBlank c = true) : isWordChar c = false := by
  have hcode : c = Char.ofNat c.toNat := (Char.ofNat_toNat c).symm
  simp only [isBlank, Ranges.has, blankRanges, List.any_cons, List.any_nil, Bool.or_false,
    Bool.or_eq_true, Bool.and_eq_true, decide_eq_true_eq] at h
  -- blanks are few, so each of them can be tried
  rw [hcode]
  generalize c.toNat = n at h
  rcases h with ⟨hlow, hhigh⟩ | ⟨hlow, hhigh⟩ | ⟨hlow, hhigh⟩ | ⟨hlow, hhigh⟩ | ⟨hlow, hhigh⟩ |
    ⟨hlow, hhigh⟩ | ⟨hlow, hhigh⟩ | ⟨hlow, hhigh⟩ | ⟨hlow, hhigh⟩ | ⟨hlow, hhigh⟩ <;>
    interval_cases n <;> decide +kernel

theorem isBlank_of_isWordChar {c : Char} (h : isWordChar c = true) : isBlank c = false := by
  cases hblank : isBlank c with
  | false => rfl
  | true => rw [isWordChar_of_isBlank hblank] at h; contradiction

/-- A sign is neither blank nor the beginning of a comment nor a character of a word. -/
theorem sign?_eq_some {c : Char} {token : Token} (h : sign? c = some token) :
    isBlank c = false ∧ c ≠ '/' ∧ isWordChar c = false := by
  unfold sign? at h
  split at h
  all_goals first | decide | contradiction

theorem text_of_sign {c : Char} {token : Token} (h : sign? c = some token) : token.text = [c] := by
  unfold sign? at h
  split at h
  all_goals first | contradiction | (cases h; rfl)

/-- A character of a word begins no other token. -/
theorem isWordChar_spec {c : Char} (h : isWordChar c = true) :
    sign? c = none ∧ isQuote c = false ∧ c ≠ '/' := by
  refine ⟨?_, ?_, ?_⟩
  · cases hsign : sign? c with
    | none => rfl
    | some token => rw [(sign?_eq_some hsign).2.2] at h; contradiction
  · by_contra hquote
    simp only [Bool.not_eq_false, isQuote, Bool.or_eq_true, decide_eq_true_eq] at hquote
    rcases hquote with (rfl | rfl) | rfl <;> revert h <;> decide
  · rintro rfl
    revert h
    decide

/-- Nor does a quote. -/
theorem isQuote_spec {c : Char} (h : isQuote c = true) :
    isBlank c = false ∧ c ≠ '/' ∧ sign? c = none ∧ isWordChar c = false := by
  simp only [isQuote, Bool.or_eq_true, decide_eq_true_eq] at h
  rcases h with (rfl | rfl) | rfl <;> decide

theorem isWordChar_of_isDigit {c : Char} (h : c.isDigit = true) : isWordChar c = true := by
  have hcode : c.toNat < 128 := by
    simp only [Char.isDigit, Bool.and_eq_true, decide_eq_true_eq] at h
    exact Nat.lt_of_le_of_lt h.2 (by decide)
  simp [isWordChar, isAlphanumeric, hcode, Char.isAlphanum, h]

/-! ### Words and numbers -/

theorem takeFraction_split (text : List Char) :
    (takeFraction text).1 ++ (takeFraction text).2 = text := by
  fun_cases takeFraction text with
  | case1 c rest => exact congrArg ('.' :: c :: ·) List.takeWhile_append_dropWhile
  | case2 => rfl
  | case3 => rfl

theorem text_takeWord (text : List Char) : (takeWord text).1.text ++ (takeWord text).2 = text := by
  simp only [takeWord]
  split
  · rw [Token.text, String.toList_ofList, List.append_assoc, takeFraction_split,
      List.takeWhile_append_dropWhile]
  · rw [Token.text, String.toList_ofList, List.takeWhile_append_dropWhile]

/-! ### Strings -/

section Quoted

variable {quote c : Char}

/-- The quote at the front closes the string. -/
theorem takeQuoted?_quote (quote : Char) (rest : List Char) :
    takeQuoted? quote (quote :: rest) = some ([], rest) := by
  rw [takeQuoted?.eq_def]
  simp

/-- A backslash takes the next character with it, be it the quote. -/
theorem takeQuoted?_backslash (hquote : quote ≠ '\\') (escaped : Char) (rest : List Char) :
    takeQuoted? quote ('\\' :: escaped :: rest) =
      (takeQuoted? quote rest).map fun (text, behind) => (unescape escaped :: text, behind) := by
  rw [takeQuoted?.eq_def]
  simp [hquote.symm]

/-- Any other character stands for itself. -/
theorem takeQuoted?_cons (hquote : c ≠ quote) (hescape : c ≠ '\\') (rest : List Char) :
    takeQuoted? quote (c :: rest) =
      (takeQuoted? quote rest).map fun (text, behind) => (c :: text, behind) := by
  rw [takeQuoted?.eq_def]
  simp [hquote, hescape]

end Quoted

/-! ### The first token -/

theorem skipBlanks_cons {c : Char} (hblank : isBlank c = false) (hslash : c ≠ '/')
    (rest : List Char) :
    skipBlanks (c :: rest) = c :: rest := by
  simp [skipBlanks, hblank, hslash]

theorem next_cons {c : Char} (hblank : isBlank c = false) (hslash : c ≠ '/') (rest : List Char) :
    next (c :: rest) = takeToken c rest := by
  rw [next, skipBlanks_cons hblank hslash]

/-- What can be at the front of a text that has no blank there, what it comes to, and what is left
behind it. -/
inductive Takes (c : Char) (text : List Char) : Except LexError Token × List Char → Prop
  | sign {token : Token} (hsign : sign? c = some token) : Takes c text (.ok token, text)
  | string {inner rest : List Char} (hquote : isQuote c = true) (hclosed : takeQuoted? c text =
    some (inner, rest)) :
      Takes c text (.ok (.str (String.ofList inner)), rest)
  | openString (hquote : isQuote c = true) (hopen : takeQuoted? c text = none) :
      Takes c text (.error .unterminatedString, [])
  | word (hword : isWordChar c = true) : Takes c text (.ok (takeWord (c :: text)).1,
    (takeWord (c :: text)).2)
  | unexpected (hsign : sign? c = none) (hquote : isQuote c = false)
    (hword : isWordChar c = false) :
      Takes c text (.error (.unexpectedChar c), text)

theorem takes_takeToken (c : Char) (text : List Char) : Takes c text (takeToken c text) := by
  unfold takeToken
  cases hsign : sign? c with
  | some token => exact .sign hsign
  | none =>
      cases hquote : isQuote c with
      | true =>
          cases hquoted : takeQuoted? c text with
          | some found => exact .string hquote hquoted
          | none => exact .openString hquote hquoted
      | false =>
          cases hword : isWordChar c with
          | true => exact .word hword
          | false => exact .unexpected hsign hquote hword

/-- Just one of the cases of `Takes` is so. -/
theorem takeToken_eq_iff {c : Char} {text : List Char}
    {result : Except LexError Token × List Char} :
    takeToken c text = result ↔ Takes c text result := by
  constructor
  · rintro rfl
    exact takes_takeToken c text
  · intro h
    cases h with
    | sign hsign => rw [takeToken, hsign]
    | string hquote hclosed => simp [takeToken, (isQuote_spec hquote).2.2.1, hquote, hclosed]
    | openString hquote hopen => simp [takeToken, (isQuote_spec hquote).2.2.1, hquote, hopen]
    | word hword =>
        obtain ⟨hsign, hquote, -⟩ := isWordChar_spec hword
        simp [takeToken, hsign, hquote, hword]
    | unexpected hsign hquote hword => simp [takeToken, hsign, hquote, hword]

theorem next_sign {c : Char} {token : Token} (h : sign? c = some token) (rest : List Char) :
    next (c :: rest) = (.ok token, rest) := by
  obtain ⟨hblank, hslash, -⟩ := sign?_eq_some h
  rw [next_cons hblank hslash, takeToken_eq_iff]
  exact .sign h

section Quote

variable {quote : Char} {text : List Char} (hquote : isQuote quote = true)

include hquote

theorem next_quote {inner rest : List Char} (h : takeQuoted? quote text = some (inner, rest)) :
    next (quote :: text) = (.ok (.str (String.ofList inner)), rest) := by
  obtain ⟨hblank, hslash, -⟩ := isQuote_spec hquote
  rw [next_cons hblank hslash, takeToken_eq_iff]
  exact .string hquote h

theorem next_open_quote (h : takeQuoted? quote text = none) :
    next (quote :: text) = (.error .unterminatedString, []) := by
  obtain ⟨hblank, hslash, -⟩ := isQuote_spec hquote
  rw [next_cons hblank hslash, takeToken_eq_iff]
  exact .openString hquote h

theorem next_eq_str_iff {inner : String} {rest : List Char} :
    next (quote :: text) = (.ok (.str inner), rest) ↔
      takeQuoted? quote text = some (inner.toList, rest) := by
  cases hquoted : takeQuoted? quote text with
  | none => simp [next_open_quote hquote hquoted]
  | some found => simp [next_quote hquote hquoted, Prod.ext_iff, ← String.toList_inj]

end Quote

section Word

variable {word rest : List Char} (hword : ∀ c ∈ word, isWordChar c = true)
  (hrest : ∀ c ∈ rest.head?, isWordChar c = false)

include hword hrest

omit hrest in
theorem next_takeWord (hne : word ≠ []) :
    next (word ++ rest) = ((.ok (takeWord (word ++ rest)).1), (takeWord (word ++ rest)).2) := by
  cases word with
  | nil => exact absurd rfl hne
  | cons c word =>
      have hc := hword c List.mem_cons_self
      rw [List.cons_append, next_cons (isBlank_of_isWordChar hc) (isWordChar_spec hc).2.2,
        takeToken_eq_iff]
      exact .word hc

theorem next_word (hne : word ≠ []) (hdigits : word.all Char.isDigit = false) :
    next (word ++ rest) = (.ok (.ident (String.ofList word)), rest) := by
  rw [next_takeWord hword hne]
  simp [takeWord, takeWhile_run hword hrest, dropWhile_run hword hrest, hdigits]

end Word

/-- Digits are a number, with the decimal part that is behind them. -/
theorem next_number {digits rest : List Char} (hne : digits ≠ [])
    (hdigits : digits.all Char.isDigit = true)
    (hrest : ∀ c ∈ rest.head?, isWordChar c = false) :
    next (digits ++ rest) = (.ok (.num (String.ofList (digits ++ (takeFraction rest).1))),
      (takeFraction rest).2) := by
  have hword : ∀ c ∈ digits, isWordChar c = true := fun c hc =>
    isWordChar_of_isDigit (List.all_eq_true.mp hdigits c hc)
  rw [next_takeWord hword hne]
  simp [takeWord, takeWhile_run hword hrest, dropWhile_run hword hrest, hdigits]

theorem takeFraction_eq_nil_iff {text : List Char} :
    (takeFraction text).1 = [] ↔ ∀ c rest, text = '.' :: c :: rest → c.isDigit = false := by
  fun_cases takeFraction text with
  | case1 c rest hc => simp [hc]
  | case2 c rest hc => simp [hc]
  | case3 text hpoint => exact iff_of_true rfl fun c rest htext => absurd htext (hpoint c rest)

theorem takeFraction_of_no_digit {text : List Char}
    (h : ∀ c rest, text = '.' :: c :: rest → c.isDigit = false) :
      takeFraction text = ([], text) := by
  have hnil := takeFraction_eq_nil_iff.mpr h
  have hsplit := takeFraction_split text
  rw [hnil, List.nil_append] at hsplit
  exact Prod.ext hnil hsplit

theorem next_digits {digits rest : List Char} (hne : digits ≠ [])
    (hdigits : digits.all Char.isDigit = true)
    (hrest : ∀ c ∈ rest.head?, isWordChar c = false ∧ c ≠ '.') :
    next (digits ++ rest) = (.ok (.num (String.ofList digits)), rest) := by
  have hend : ∀ c ∈ rest.head?, isWordChar c = false := fun c hc => (hrest c hc).1
  have hfraction : takeFraction rest = ([], rest) :=
    takeFraction_of_no_digit fun c behind htext =>
      absurd rfl (hrest '.' (congrArg List.head? htext)).2
  rw [next_number hne hdigits hend, hfraction, List.append_nil]

/-! ### Whole texts -/

theorem tokenize_of_skipBlanks {text : List Char} (h : skipBlanks text = []) :
    tokenize text = ([.endOfText], none) := by
  have hnext : next text = (.ok .endOfText, []) := by rw [next, h]
  rw [tokenize]
  split
  · rename_i error herror
    rw [hnext] at herror
    contradiction
  · rename_i token htoken
    rw [hnext] at htoken
    cases htoken
    rfl

theorem tokenize_nil : tokenize [] = ([.endOfText], none) :=
  tokenize_of_skipBlanks rfl

theorem tokenize_of_error {text : List Char} {error : LexError} (h : (next text).1 = .error error) :
    tokenize text = ([.endOfText], some error) := by
  rw [tokenize]
  split
  · rename_i other hother
    rw [h] at hother
    cases hother
    rfl
  · rename_i token htoken
    rw [h] at htoken
    contradiction

theorem tokenize_of_next {text rest : List Char} {token : Token}
    (hnext : next text = (.ok token, rest)) (htoken : token ≠ .endOfText) :
    tokenize text = (token :: (tokenize rest).1, (tokenize rest).2) := by
  rw [tokenize]
  split
  · rename_i error herror
    simp [hnext] at herror
  · rename_i other hother
    simp only [hnext, Except.ok.injEq] at hother
    subst hother
    simp [htoken, hnext]

/-- A text begins with a token if it is the next one, and has the others behind it. -/
theorem tokenize_eq_cons_iff {text : List Char} {token : Token} {tokens : List Token}
    {error : Option LexError} (htoken : token ≠ .endOfText) :
    tokenize text = (token :: tokens, error) ↔
      ∃ rest, next text = (.ok token, rest) ∧ tokenize rest = (tokens, error) := by
  constructor
  · intro h
    rw [tokenize] at h
    split at h
    · exact absurd (List.cons.inj (Prod.mk.inj h).1).1.symm htoken
    · rename_i first hfirst
      split at h
      · exact absurd (List.cons.inj (Prod.mk.inj h).1).1.symm htoken
      · obtain ⟨hcons, rfl⟩ := Prod.mk.inj h
        obtain ⟨rfl, rfl⟩ := List.cons.inj hcons
        exact ⟨(next text).2, Prod.ext hfirst rfl, rfl⟩
  · rintro ⟨rest, hnext, hrest⟩
    rw [tokenize_of_next hnext htoken, hrest]

theorem tokenize?_eq_ok_iff {text : List Char} {tokens : List Token} :
    tokenize? text = .ok tokens ↔ tokenize text = (tokens, none) := by
  unfold tokenize?
  split <;> simp_all

theorem next_blank {c : Char} (h : isBlank c = true) (rest : List Char) :
    next (c :: rest) = next rest := by
  simp [next, skipBlanks, h]

end Lexer

end Dbml
