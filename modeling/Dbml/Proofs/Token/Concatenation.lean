import Dbml.Proofs.Token.Lexing

/-!
# Texts one behind the other

No token reaches past a blank, unless a string is still open there or a comment has begun.  So of
two texts with a blank between them the tokens come one behind the other.

* `next_append`: the token at the beginning of a text does not depend on what comes behind a blank;
* `hasComment`: two slashes outside of quotes begin a comment, and nothing else does
  (`hasComment_of_next`);
* `tokenize_append`: the tokens of a text without comments and errors come in front of those behind
  it;
* `tokenize_behind_blanks`: both for texts with blanks between them and for a comment behind blanks;
* `tokenize_trim`: blanks at the two ends of a text do not count, whatever it is.
-/

namespace Dbml.Lexer

open Text

/-! ### A blank behind a token -/

theorem ne_of_isBlank {c other : Char} (h : isBlank c = true) (hother : isBlank other = false) :
    c ≠ other := by
  rintro rfl
  rw [h] at hother
  contradiction

theorem isDigit_of_not_isWordChar {c : Char} (h : isWordChar c = false) : c.isDigit = false := by
  cases hdigit : c.isDigit with
  | false => rfl
  | true =>
      rw [isWordChar_of_isDigit hdigit] at h
      contradiction

section Quoted

variable {quote : Char} {text inner rest more : List Char}

theorem takeQuoted?_append (h : takeQuoted? quote text = some (inner, rest)) (more : List Char) :
    takeQuoted? quote (text ++ more) = some (inner, rest ++ more) := by
  fun_induction takeQuoted? quote text generalizing inner rest with
  | case1 => contradiction
  | case2 tail =>
      cases h
      exact takeQuoted?_quote quote (tail ++ more)
  | case3 => contradiction
  | case4 escaped tail hquote ih =>
      obtain ⟨⟨others, behind⟩, htail, hpair⟩ := Option.map_eq_some_iff.mp h
      cases hpair
      rw [List.cons_append, List.cons_append, takeQuoted?_backslash (Ne.symm hquote), ih htail]
      rfl
  | case5 c tail hquote hescape ih =>
      obtain ⟨⟨others, behind⟩, htail, hpair⟩ := Option.map_eq_some_iff.mp h
      cases hpair
      rw [List.cons_append, takeQuoted?_cons hquote hescape, ih htail]
      rfl

variable (hquote : isBlank quote = false)

include hquote

theorem takeQuoted?_blanks (hmore : ∀ c ∈ more, isBlank c = true) :
    takeQuoted? quote more = none := by
  induction more with
  | nil => rw [takeQuoted?]
  | cons c more ih =>
      obtain ⟨hc, hothers⟩ := List.forall_mem_cons.mp hmore
      rw [takeQuoted?_cons (ne_of_isBlank hc hquote) (ne_of_isBlank hc (by decide)), ih hothers]
      rfl

theorem takeQuoted?_append_blanks (hmore : ∀ c ∈ more, isBlank c = true)
    (h : takeQuoted? quote text = none) : takeQuoted? quote (text ++ more) = none := by
  fun_induction takeQuoted? quote text with
  | case1 => exact takeQuoted?_blanks hquote hmore
  | case2 => contradiction
  | case3 hescape =>
      -- the blank behind the backslash is taken for an escaped one
      cases more with
      | nil => simp [takeQuoted?, hescape]
      | cons c more =>
          have hothers := takeQuoted?_blanks hquote (List.forall_mem_cons.mp hmore).2
          rw [List.singleton_append, takeQuoted?_backslash (Ne.symm hescape), hothers]
          rfl
  | case4 escaped tail hescape ih =>
      have htail := ih (Option.map_eq_none_iff.mp h)
      rw [List.cons_append, List.cons_append, takeQuoted?_backslash (Ne.symm hescape), htail]
      rfl
  | case5 c tail hc hescape ih =>
      have htail := ih (Option.map_eq_none_iff.mp h)
      rw [List.cons_append, takeQuoted?_cons hc hescape, htail]
      rfl

end Quoted

section Stop

variable {more : List Char} (hmore : ∀ c ∈ more.head?, isWordChar c = false ∧ c ≠ '.')

include hmore

theorem takeFraction_append (text : List Char) :
    takeFraction (text ++ more) = ((takeFraction text).1, (takeFraction text).2 ++ more) := by
  have hdigit : ∀ c ∈ more.head?, c.isDigit = false :=
    fun c hc => isDigit_of_not_isWordChar (hmore c hc).1
  fun_cases takeFraction text with
  | case1 c rest hc =>
      obtain ⟨htaken, hleft⟩ := takeWhile_append_stop hdigit rest
      simp [takeFraction, hc, htaken, hleft]
  | case2 c rest hc => simp [takeFraction, hc]
  | case3 text hfraction =>
      apply takeFraction_of_no_digit
      intro c rest htext
      -- the point comes from the text, and what comes behind it is no digit
      cases text with
      | nil => exact absurd rfl (hmore '.' (congrArg List.head? htext)).2
      | cons first tail =>
          cases tail with
          | nil => exact hdigit c (congrArg List.head? (List.cons.inj htext).2)
          | cons second tail =>
              obtain ⟨rfl, htail⟩ := List.cons.inj htext
              exact absurd rfl (hfraction second tail)

theorem takeWord_append (text : List Char) :
    takeWord (text ++ more) = ((takeWord text).1, (takeWord text).2 ++ more) := by
  have hword : ∀ c ∈ more.head?, isWordChar c = false := fun c hc => (hmore c hc).1
  obtain ⟨htaken, hleft⟩ := takeWhile_append_stop hword text
  simp only [takeWord, htaken, hleft, takeFraction_append hmore]
  split <;> rfl

end Stop

section Append

variable {text rest more : List Char} {c : Char} {token : Token} {error : LexError}
  (hmore : ∀ c ∈ more.head?, isBlank c = true)

include hmore

/-- The token at the beginning of a text does not change when something comes behind a blank, nor
does the character that begins none. -/
theorem takeToken_append {result : Except LexError Token} (h : takeToken c text = (result, rest))
    (hresult : result ≠ .error .unterminatedString) :
    takeToken c (text ++ more) = (result, rest ++ more) := by
  have hstop : ∀ c ∈ more.head?, isWordChar c = false ∧ c ≠ '.' := fun c hc =>
    ⟨isWordChar_of_isBlank (hmore c hc), ne_of_isBlank (hmore c hc) (by decide)⟩
  rw [takeToken_eq_iff] at h ⊢
  cases h with
  | sign hsign => exact .sign hsign
  | string hquote hclosed => exact .string hquote (takeQuoted?_append hclosed more)
  | openString => contradiction
  | word hword =>
      have htaken := @Takes.word c (text ++ more) hword
      rwa [← List.cons_append, takeWord_append hstop] at htaken
  | unexpected hsign hquote hword => exact .unexpected hsign hquote hword

theorem skipBlanks_append (h : skipBlanks text = c :: rest) :
    skipBlanks (text ++ more) = c :: (rest ++ more) := by
  fun_induction skipBlanks text with
  | case1 => contradiction
  | case2 first tail hblank ih => rw [List.cons_append, skipBlanks, if_pos hblank, ih h]
  | case3 => contradiction
  | case4 first tail hblank hcomment =>
      cases h
      have hslashes : ¬ (c = '/' && (rest ++ more).head? = some '/') = true := by
        intro hcomes
        simp only [Bool.and_eq_true, decide_eq_true_eq] at hcomes hcomment
        cases rest with
        | nil =>
            have hslash : isBlank '/' = true := hmore '/' hcomes.2
            contradiction
        | cons second rest => exact hcomment hcomes
      rw [List.cons_append, skipBlanks, if_neg hblank, if_neg hslashes]

/-- A token does not change when something comes behind a blank, nor does a character that begins
none.  Only the end of the text does, and a string that is open there. -/
theorem next_append {result : Except LexError Token} (h : next text = (result, rest))
    (hend : result ≠ .ok .endOfText) (hstring : result ≠ .error .unterminatedString) :
    next (text ++ more) = (result, rest ++ more) := by
  unfold next at h ⊢
  cases hskip : skipBlanks text with
  | nil =>
      rw [hskip] at h
      cases h
      contradiction
  | cons c tail =>
      rw [hskip] at h
      rw [skipBlanks_append hmore hskip]
      exact takeToken_append hmore h hstring

end Append

/-! ### Comments -/

/-- Two slashes stand in a text outside of all quotes.  The text itself begins inside the given
ones, or outside if there are none; in quotes a backslash keeps the next character from closing
them. -/
def hasComment : Option Char → List Char → Bool
  | _, [] => false
  | none, c :: rest =>
    if isQuote c then hasComment (some c) rest
    else c = '/' && rest.head? = some '/' || hasComment none rest
  | some quote, c :: rest =>
    if c = quote then hasComment none rest
    else if c = '\\' then
      match rest with
      | [] => false
      | _ :: rest => hasComment (some quote) rest
    else hasComment (some quote) rest

section Comment

variable {text rest inner : List Char} {c quote : Char} {token : Token}

theorem hasComment_quoted (h : takeQuoted? quote text = some (inner, rest)) :
    hasComment (some quote) text = hasComment none rest := by
  fun_induction takeQuoted? quote text generalizing inner rest with
  | case1 => contradiction
  | case2 tail =>
      cases h
      rw [hasComment.eq_def]
      simp
  | case3 => contradiction
  | case4 escaped tail hquote ih =>
      obtain ⟨⟨others, behind⟩, htail, hpair⟩ := Option.map_eq_some_iff.mp h
      cases hpair
      rw [hasComment.eq_def]
      simp [hquote, ih htail]
  | case5 c tail hquote hescape ih =>
      obtain ⟨⟨others, behind⟩, htail, hpair⟩ := Option.map_eq_some_iff.mp h
      cases hpair
      rw [hasComment.eq_def]
      simp [hquote, hescape, ih htail]

theorem hasComment_cons (hquote : isQuote c = false) (hslash : c ≠ '/') (rest : List Char) :
    hasComment none (c :: rest) = hasComment none rest := by
  simp [hasComment, hquote, hslash]

theorem hasComment_append {front : List Char} (h : ∀ c ∈ front, isQuote c = false ∧ c ≠ '/')
    (rest : List Char) : hasComment none (front ++ rest) = hasComment none rest := by
  induction front with
  | nil => rfl
  | cons c front ih =>
      obtain ⟨⟨hquote, hslash⟩, hothers⟩ := List.forall_mem_cons.mp h
      rw [List.cons_append, hasComment_cons hquote hslash, ih hothers]

theorem plain_of_isBlank (h : isBlank c = true) : isQuote c = false ∧ c ≠ '/' := by
  have hsingle : c ≠ '\'' := ne_of_isBlank h (by decide)
  have hdouble : c ≠ '"' := ne_of_isBlank h (by decide)
  have hbacktick : c ≠ '`' := ne_of_isBlank h (by decide)
  refine ⟨?_, ne_of_isBlank h (by decide)⟩
  simp [isQuote, hsingle, hdouble, hbacktick]

theorem isQuote_of_sign (h : sign? c = some token) : isQuote c = false := by
  cases hquote : isQuote c with
  | false => rfl
  | true =>
      rw [(isQuote_spec hquote).2.2.1] at h
      contradiction

theorem plain_of_isWordChar (h : isWordChar c = true) : isQuote c = false ∧ c ≠ '/' :=
  ⟨(isWordChar_spec h).2.1, (isWordChar_spec h).2.2⟩

theorem plain_of_isDigit (h : c.isDigit = true) : isQuote c = false ∧ c ≠ '/' :=
  plain_of_isWordChar (isWordChar_of_isDigit h)

/-- There are neither quotes nor slashes in a decimal part. -/
theorem plain_of_mem_takeFraction (h : c ∈ (takeFraction text).1) :
    isQuote c = false ∧ c ≠ '/' := by
  fun_cases takeFraction text with
  | case1 digit rest hdigit =>
      simp only [takeFraction, if_pos hdigit, List.mem_cons] at h
      rcases h with rfl | rfl | hdigits
      · decide
      · exact plain_of_isDigit hdigit
      · exact plain_of_isDigit (List.all_eq_true.mp List.all_takeWhile c hdigits)
  | case2 digit rest hdigit => simp [takeFraction, hdigit] at h
  | case3 text hfraction => simp [takeFraction] at h

/-- Nor are there in a word or a number. -/
theorem plain_of_mem_takeWord (h : c ∈ (takeWord text).1.text) : isQuote c = false ∧ c ≠ '/' := by
  have hword : ∀ other ∈ text.takeWhile isWordChar, isQuote other = false ∧ other ≠ '/' :=
    fun other hother =>
    plain_of_isWordChar (List.all_eq_true.mp List.all_takeWhile other hother)
  simp only [takeWord] at h
  split at h
  · rw [Token.text, String.toList_ofList] at h
    exact (List.mem_append.mp h).elim (hword c) plain_of_mem_takeFraction
  · rw [Token.text, String.toList_ofList] at h
    exact hword c h

theorem hasComment_takeToken (h : takeToken c text = (.ok token, rest)) :
    hasComment none (c :: text) = hasComment none rest := by
  rw [takeToken_eq_iff] at h
  cases h with
  | sign hsign => exact hasComment_cons (isQuote_of_sign hsign) (sign?_eq_some hsign).2.1 text
  | string hquote hclosed => rw [hasComment, if_pos hquote, hasComment_quoted hclosed]
  | word hword =>
      have hsplit := congrArg (hasComment none) (text_takeWord (c :: text))
      rw [hasComment_append fun other hother => plain_of_mem_takeWord hother] at hsplit
      exact hsplit.symm

theorem hasComment_skipBlanks (h : skipBlanks text = c :: rest) :
    hasComment none text = hasComment none (c :: rest) := by
  fun_induction skipBlanks text with
  | case1 => contradiction
  | case2 first tail hblank ih =>
      obtain ⟨hquote, hslash⟩ := plain_of_isBlank hblank
      rw [hasComment_cons hquote hslash, ih h]
  | case3 => contradiction
  | case4 first tail hblank hcomment => rw [h]

theorem hasComment_of_next (h : next text = (.ok token, rest)) (hend : token ≠ .endOfText) :
    hasComment none text = hasComment none rest := by
  unfold next at h
  split at h
  · cases h
    contradiction
  · rename_i c tail hskip
    rw [hasComment_skipBlanks hskip, hasComment_takeToken h]

/-- A text without comments in which nothing is left once blanks are skipped has nothing but
blanks. -/
theorem skipBlanks_append_of_nil (hcomment : hasComment none text = false)
    (h : skipBlanks text = [])
    (more : List Char) : skipBlanks (text ++ more) = skipBlanks more := by
  fun_induction skipBlanks text with
  | case1 => rfl
  | case2 first tail hblank ih =>
      obtain ⟨hquote, hslash⟩ := plain_of_isBlank hblank
      rw [hasComment_cons hquote hslash] at hcomment
      rw [List.cons_append, skipBlanks, if_pos hblank, ih hcomment h]
  | case3 first tail hblank hslashes =>
      simp only [Bool.and_eq_true, decide_eq_true_eq] at hslashes
      obtain ⟨rfl, hsecond⟩ := hslashes
      have hquote : isQuote '/' = false := by decide
      simp [hasComment, hquote, hsecond] at hcomment
  | case4 => contradiction

end Comment

/-! ### Whole texts -/

theorem takeToken_ne_end (c : Char) (rest : List Char) : (takeToken c rest).1 ≠ .ok .endOfText := by
  have htakes := takes_takeToken c rest
  generalize takeToken c rest = result at htakes
  cases htakes with
  | sign hsign =>
      rintro ⟨⟩
      exact absurd (text_of_sign hsign) (List.cons_ne_nil c []).symm
  | word hword =>
      simp only [takeWord]
      split <;> simp
  | _ => simp

theorem skipBlanks_of_next_end {text : List Char} (h : (next text).1 = .ok .endOfText) :
    skipBlanks text = [] := by
  unfold next at h
  split at h
  · assumption
  · exact absurd h (takeToken_ne_end _ _)

theorem tokenize_congr {text other : List Char} (h : next text = next other) :
    tokenize text = tokenize other := by
  cases hresult : (next text).1 with
  | error error => rw [tokenize_of_error hresult, tokenize_of_error (h ▸ hresult)]
  | ok token =>
      by_cases hend : token = .endOfText
      · subst hend
        rw [tokenize_of_skipBlanks (skipBlanks_of_next_end hresult),
          tokenize_of_skipBlanks (skipBlanks_of_next_end (h ▸ hresult))]
      · have htext : next text = (.ok token, (next text).2) := Prod.ext hresult rfl
        rw [tokenize_of_next htext hend, tokenize_of_next (h.symm.trans htext) hend]

theorem exists_tokenize (text : List Char) :
    ∃ tokens, (tokenize text).1 = tokens ++ [.endOfText] := by
  fun_induction tokenize text with
  | case1 => exact ⟨[], rfl⟩
  | case2 => exact ⟨[], rfl⟩
  | case3 text token hnext hend others failure hothers ih =>
      obtain ⟨tokens, htokens⟩ := ih
      rw [hothers] at htokens
      exact ⟨token :: tokens, congrArg (token :: ·) htokens⟩

/-- **Tokens one behind the other.**  A text without comments in which the lexer does not fail has
its tokens in front of those of what comes behind a blank. -/
theorem tokenize_append {text more : List Char} {tokens : List Token}
    (hlexed : tokenize text = (tokens ++ [.endOfText], none))
    (hcomment : hasComment none text = false) (hmore : ∀ c ∈ more.head?, isBlank c = true) :
    tokenize (text ++ more) = (tokens ++ (tokenize more).1, (tokenize more).2) := by
  fun_induction tokenize text generalizing tokens with
  | case1 => cases (Prod.mk.inj hlexed).2
  | case2 text hend =>
      have hnil : tokens = [] := by
        simpa using (Prod.mk.inj hlexed).1
      have hblanks := skipBlanks_append_of_nil hcomment (skipBlanks_of_next_end hend) more
      rw [hnil, List.nil_append]
      apply tokenize_congr
      rw [next, next, hblanks]
  | case3 text token hresult hend others failure hothers ih =>
      obtain ⟨hfirst, rfl⟩ := Prod.mk.inj hlexed
      have hnext : next text = (.ok token, (next text).2) := Prod.ext hresult rfl
      cases tokens with
      | nil => exact absurd (List.cons.inj hfirst).1 hend
      | cons first tokens =>
          obtain ⟨rfl, rfl⟩ := List.cons.inj hfirst
          rw [hasComment_of_next hnext hend] at hcomment
          have hmoved : next (text ++ more) = (.ok token, (next text).2 ++ more) :=
            next_append hmore hnext (by simpa using hend) (by simp)
          rw [tokenize_of_next hmoved hend, ih hothers hcomment]
          rfl

/-! ### Blanks at the ends -/

section Blanks

variable {text more : List Char}

theorem skipBlanks_append_front (hmore : ∀ c ∈ more, isBlank c = true) (text : List Char) :
    skipBlanks (more ++ text) = skipBlanks text := by
  induction more with
  | nil => rfl
  | cons c more ih =>
      obtain ⟨hc, hothers⟩ := List.forall_mem_cons.mp hmore
      rw [List.cons_append, skipBlanks, if_pos hc, ih hothers]

theorem skipBlanks_blanks (hmore : ∀ c ∈ more, isBlank c = true) : skipBlanks more = [] := by
  simpa [skipBlanks] using skipBlanks_append_front hmore []

theorem skipBlanks_append_nil (hmore : skipBlanks more = []) (h : skipBlanks text = []) :
    skipBlanks (text ++ more) = [] := by
  fun_induction skipBlanks text with
  | case1 => exact hmore
  | case2 first tail hblank ih => rw [List.cons_append, skipBlanks, if_pos hblank, ih h]
  | case3 first tail hblank hslashes =>
      have hsecond : (first = '/' && (tail ++ more).head? = some '/') = true := by
        simp only [Bool.and_eq_true, decide_eq_true_eq] at hslashes ⊢
        rw [List.head?_append, hslashes.2]
        exact ⟨hslashes.1, rfl⟩
      rw [List.cons_append, skipBlanks, if_neg hblank, if_pos hsecond]
  | case4 => contradiction

/-- A string that is open at the end of a text stays open when blanks come behind it. -/
theorem next_append_blanks (hmore : ∀ c ∈ more, isBlank c = true)
    (h : (next text).1 = .error .unterminatedString) :
    (next (text ++ more)).1 = .error .unterminatedString := by
  have hhead : ∀ c ∈ more.head?, isBlank c = true := fun c hc => hmore c (List.mem_of_mem_head? hc)
  unfold next at h
  split at h
  · contradiction
  · rename_i c tail hskip
    rw [next, skipBlanks_append hhead hskip]
    have htakes := takes_takeToken c tail
    generalize takeToken c tail = result at h htakes
    cases htakes with
    | openString hquote hopen =>
        have hmoved := takeQuoted?_append_blanks (isQuote_spec hquote).1 hmore hopen
        exact congrArg Prod.fst (takeToken_eq_iff.mpr (.openString hquote hmoved))
    | _ => cases h

/-- What is skipped behind a blank leaves the tokens of a text and its failure as they are, unless
it closes a string that is open there. -/
theorem tokenize_append_skipped (hhead : ∀ c ∈ more.head?, isBlank c = true)
    (hskipped : skipBlanks more = [])
    (hopen : (tokenize text).2 = some .unterminatedString → ∀ c ∈ more, isBlank c = true) :
    tokenize (text ++ more) = tokenize text := by
  fun_induction tokenize text with
  | case1 text error herror =>
      apply tokenize_of_error
      by_cases hstring : error = .unterminatedString
      · subst hstring
        exact next_append_blanks (hopen rfl) herror
      · have hnext : next text = (.error error, (next text).2) := Prod.ext herror rfl
        exact congrArg Prod.fst (next_append hhead hnext (by simp) (by simpa using hstring))
  | case2 text hend =>
      exact tokenize_of_skipBlanks (skipBlanks_append_nil hskipped (skipBlanks_of_next_end hend))
  | case3 text token hresult hend others failure hothers ih =>
      have hnext : next text = (.ok token, (next text).2) := Prod.ext hresult rfl
      have hmoved : next (text ++ more) = (.ok token, (next text).2 ++ more) :=
        next_append hhead hnext (by simpa using hend) (by simp)
      rw [hothers] at ih
      rw [tokenize_of_next hmoved hend, ih hopen]

/-- Blanks at its end leave the tokens of a text and its failure as they are. -/
theorem tokenize_append_blanks (hmore : ∀ c ∈ more, isBlank c = true) :
    tokenize (text ++ more) = tokenize text :=
  tokenize_append_skipped (fun c hc =>
    hmore c (List.mem_of_mem_head? hc)) (skipBlanks_blanks hmore) fun _ => hmore

theorem skipBlanks_dropWhile (text : List Char) :
    skipBlanks (text.dropWhile isBlank) = skipBlanks text := by
  induction text with
  | nil => rfl
  | cons c text ih =>
      by_cases hc : isBlank c = true
      · rw [List.dropWhile_cons_of_pos hc, skipBlanks, if_pos hc, ih]
      · rw [List.dropWhile_cons_of_neg hc]

theorem tokenize_trim (text : List Char) : tokenize (trim text) = tokenize text := by
  have hfront : tokenize (text.dropWhile isBlank) = tokenize text := by
    apply tokenize_congr
    rw [next, next, skipBlanks_dropWhile]
  have hback : ∀ c ∈ ((text.dropWhile isBlank).reverse.takeWhile isBlank).reverse,
      isBlank c = true := by
    intro c hc
    exact List.all_eq_true.mp List.all_takeWhile c (List.mem_reverse.mp hc)
  have hsplit : trim text ++ ((text.dropWhile isBlank).reverse.takeWhile isBlank).reverse =
      text.dropWhile isBlank := by
    rw [trim, ← List.reverse_append, List.takeWhile_append_dropWhile, List.reverse_reverse]
  calc
    tokenize (trim text) =
        tokenize (trim text ++ ((text.dropWhile isBlank).reverse.takeWhile isBlank).reverse) :=
      (tokenize_append_blanks hback).symm
    _ = tokenize (text.dropWhile isBlank) := by rw [hsplit]
    _ = tokenize text := hfront

end Blanks

/-! ### Texts with blanks between them -/

/-- **Blanks keep texts apart.**  A text in which the lexer does not fail has its tokens in front of
those of what comes behind blanks, unless it has a comment; and it keeps its tokens when a comment
comes behind blanks. -/
theorem tokenize_behind_blanks {text gap : List Char} (hlexed : (tokenize text).2 = none)
    (hne : gap ≠ []) (hgap : ∀ c ∈ gap, isBlank c = true) (more : List Char) :
    (hasComment none text = false →
      tokenize (text ++ gap ++ more) =
        ((tokenize text).1.dropLast ++ (tokenize more).1, (tokenize more).2)) ∧
    tokenize (text ++ gap ++ '/' :: '/' :: more) = tokenize text := by
  have hhead : ∀ rest, ∀ c ∈ (gap ++ rest).head?, isBlank c = true := by
    obtain ⟨first, others, rfl⟩ := List.exists_cons_of_ne_nil hne
    exact fun rest => forall_head?_cons (hgap first List.mem_cons_self) (others ++ rest)
  constructor
  · intro hcomment
    obtain ⟨tokens, htokens⟩ := exists_tokenize text
    have hmore : tokenize (gap ++ more) = tokenize more := by
      apply tokenize_congr
      rw [next, next, skipBlanks_append_front hgap]
    rw [List.append_assoc, tokenize_append (Prod.ext htokens hlexed) hcomment (hhead more), hmore,
      htokens, List.dropLast_concat]
  · have hskipped : skipBlanks (gap ++ '/' :: '/' :: more) = [] := by
      rw [skipBlanks_append_front hgap]
      rfl
    rw [List.append_assoc]
    exact tokenize_append_skipped (hhead _) hskipped fun hopen => by simp [hlexed] at hopen

/-- The number does not go on behind the blanks, and the slashes in quotes begin no comment. -/
theorem tokenize_behind_blanks_of_number :
    (tokenize "'a // b' 1".toList).2 = none ∧ " \t".toList ≠ [] ∧
      (∀ c ∈ " \t".toList, isBlank c = true) ∧
      hasComment none "'a // b' 1".toList = false ∧
      tokenize "'a // b' 1 \t.5 'c".toList =
        ([.str "a // b", .num "1", .dot, .num "5", .endOfText], some .unterminatedString) ∧
      tokenize "'a // b' 1 \t//.5 'c".toList = ([.str "a // b", .num "1", .endOfText], none) := by
  have hlexed : tokenize "'a // b' 1".toList = ([.str "a // b", .num "1", .endOfText], none) := by
    decide +kernel
  have hbehind : tokenize ".5 'c".toList =
      ([.dot, .num "5", .endOfText], some .unterminatedString) := by
    decide +kernel
  have hlast : (tokenize "'a // b' 1".toList).2 = none := congrArg Prod.snd hlexed
  have hgap : ∀ c ∈ " \t".toList, isBlank c = true := List.all_eq_true.mp (by decide)
  have happlied := tokenize_behind_blanks hlast (by decide) hgap ".5 'c".toList
  rw [hlexed, hbehind] at happlied
  exact ⟨hlast, by decide, hgap, by decide +kernel, happlied.1 (by decide +kernel), happlied.2⟩

end Dbml.Lexer
