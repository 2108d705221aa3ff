import Dbml.Proofs.Token.Concatenation

/-!
# What the lexer can read

Outside of quotes the lexer reads blanks, the characters of words, and signs.  Whatever these make
up, it is cut into tokens without a failure; at any other character the tokens end, be it a failure
or the slashes of a comment.

* `isReadable`: the characters that are read;
* `tokenize_readable`: a text of them has its tokens in front of what comes behind, if this does not
  go on with a word;
* `tokenize_unreadable`: another character is the end;
* `IsCutFrom`: tokens without quotes are words, numbers, or the signs that occur.
-/

namespace Dbml.Lexer

open Text

/-- The lexer reads the character outside of quotes. -/
def isReadable (c : Char) : Bool :=
  isBlank c || isWordChar c || (sign? c).isSome

/-- What a token without quotes can be: a word, a number, or a sign that occurs in the text. -/
def IsCutFrom (text : List Char) (token : Token) : Prop :=
  token.isWord = true ∨ ∃ c ∈ text, sign? c = some token

variable {c : Char} {text more : List Char} {token : Token}

/-! ### Signs -/

theorem IsCutFrom.mono (h : IsCutFrom text token) (hsub : text ⊆ more) : IsCutFrom more token := by
  rcases h with hword | ⟨c, hc, hsign⟩
  · exact .inl hword
  · exact .inr ⟨c, hsub hc, hsign⟩

theorem IsCutFrom.ne_of_sign {sign : Token} (h : IsCutFrom text token) (hc : c ∉ text)
    (hsign : sign? c = some sign) :
    token ≠ sign := by
  rintro rfl
  rcases h with hword | ⟨other, hother, hsame⟩
  · unfold sign? at hsign
    split at hsign
    all_goals first | contradiction | (cases hsign; contradiction)
  · have htext := (text_of_sign hsame).symm.trans (text_of_sign hsign)
    rw [List.singleton_inj.mp htext] at hother
    exact hc hother

/-! ### The first token -/

theorem isWord_takeWord (text : List Char) : (takeWord text).1.isWord = true := by
  simp only [takeWord]
  split <;> rfl

theorem IsCutFrom.ne_end (h : IsCutFrom text token) : token ≠ .endOfText := by
  rintro rfl
  rcases h with hword | ⟨c, hc, hsign⟩
  · contradiction
  · exact absurd (text_of_sign hsign) (by simp [Token.text])

section Stop

variable (hmore : ∀ c ∈ more.head?, isWordChar c = false ∧ c ≠ '.')

include hmore

/-- A word or a number is taken off the front, with what is left of the text in front of what comes
behind. -/
theorem next_wordChar (hc : isWordChar c = true) (text : List Char) :
    next (c :: text ++ more) =
      (.ok (takeWord (c :: text)).1, (takeWord (c :: text)).2 ++ more) := by
  have hword : ∀ other ∈ [c], isWordChar other = true := List.forall_mem_singleton.mpr hc
  have hnext : next ([c] ++ (text ++ more)) =
      (.ok (takeWord ([c] ++ (text ++ more))).1, (takeWord ([c] ++ (text ++ more))).2) :=
    next_takeWord hword (List.cons_ne_nil c [])
  have htaken : takeWord (c :: text ++ more) =
    ((takeWord (c :: text)).1, (takeWord (c :: text)).2 ++ more) :=
    takeWord_append hmore (c :: text)
  rw [List.singleton_append, ← List.cons_append, htaken] at hnext
  exact hnext

/-- At a character that is read and no blank a token is cut off, and less is left of the text. -/
theorem next_readable (hc : isReadable c = true) (hblank : isBlank c = false) (text : List Char) :
    ∃ token rest, next (c :: text ++ more) = (.ok token, rest ++ more) ∧
      IsCutFrom (c :: text) token ∧
      rest ⊆ c :: text ∧ rest.length ≤ text.length := by
  cases hsign : sign? c with
  | some sign =>
      refine ⟨sign, text, next_sign hsign (text ++ more), ?_, List.subset_cons_self c text,
        Nat.le_refl _⟩
      exact .inr ⟨c, List.mem_cons_self, hsign⟩
  | none =>
      have hword : isWordChar c = true := by
        simpa [isReadable, hblank, hsign] using hc
      refine ⟨(takeWord (c :: text)).1, (takeWord (c :: text)).2, next_wordChar hmore hword text,
        ?_, ?_, takeWord_length hword text⟩
      · exact .inl (isWord_takeWord (c :: text))
      · intro other hother
        rw [← text_takeWord (c :: text)]
        exact List.mem_append_right _ hother

/-! ### Readable texts -/

theorem tokenize_readable {text : List Char} (htext : ∀ c ∈ text, isReadable c = true) :
    ∃ tokens, tokenize (text ++ more) = (tokens ++ (tokenize more).1, (tokenize more).2) ∧
      ∀ token ∈ tokens, IsCutFrom text token := by
  match text with
  | [] => exact ⟨[], rfl, List.forall_mem_nil _⟩
  | c :: rest =>
      obtain ⟨hc, hrest⟩ := List.forall_mem_cons.mp htext
      cases hblank : isBlank c with
      | true =>
          obtain ⟨tokens, hlexed, hcut⟩ := tokenize_readable hrest
          refine ⟨tokens, ?_, fun token htoken =>
            (hcut token htoken).mono (List.subset_cons_self c rest)⟩
          rw [← hlexed]
          exact tokenize_congr (next_blank hblank (rest ++ more))
      | false =>
          obtain ⟨token, behind, hnext, htoken, hsub, hshorter⟩ :=
            next_readable hmore hc hblank rest
          obtain ⟨tokens, hlexed, hcut⟩ :=
            tokenize_readable fun other hother => htext other (hsub hother)
          refine ⟨token :: tokens, ?_, List.forall_mem_cons.mpr ⟨htoken, fun other hother => ?_⟩⟩
          · rw [tokenize_of_next hnext htoken.ne_end, hlexed]
            rfl
          · exact (hcut other hother).mono hsub
termination_by text.length
decreasing_by all_goals simp only [List.length_cons]; omega

end Stop

/-! ### Unreadable characters -/

/-- A character that is no quote is read unless the tokens end there. -/
theorem tokenize_unreadable (h : isReadable c = false) (hquote : isQuote c = false)
    (rest : List Char) :
    (tokenize (c :: rest)).1 = [.endOfText] := by
  simp only [isReadable, Bool.or_eq_false_iff, Option.isSome_eq_false_iff,
    Option.isNone_iff_eq_none] at h
  obtain ⟨⟨hblank, hword⟩, hsign⟩ := h
  by_cases hslashes : (c = '/' && rest.head? = some '/') = true
  · have hskip : skipBlanks (c :: rest) = [] := by
      simp [skipBlanks, hblank, hslashes]
    rw [tokenize_of_skipBlanks hskip]
  · have hskip : skipBlanks (c :: rest) = c :: rest := by
      simp [skipBlanks, hblank, hslashes]
    have hnext : next (c :: rest) = (.error (.unexpectedChar c), rest) := by
      rw [next, hskip]
      exact takeToken_eq_iff.mpr (.unexpected hsign hquote hword)
    rw [tokenize_of_error (congrArg Prod.fst hnext)]

/-- A text without quotes is cut into tokens up to the first character that is not readable, and
from there on it has none. -/
theorem tokenize_not_readable (htext : ¬ ∀ c ∈ text, isReadable c = true)
    (hquote : ∀ c ∈ text, isQuote c = false) (more : List Char) :
    ∃ tokens, (tokenize (text ++ more)).1 = tokens ++ [.endOfText] ∧ ∀ token ∈ tokens,
      IsCutFrom text token := by
  obtain ⟨c, hfirst⟩ : ∃ c, text.find? (!isReadable ·) = some c := by
    rw [← Option.isSome_iff_exists, List.find?_isSome]
    simpa using htext
  obtain ⟨hc, front, rest, rfl, hfront⟩ := List.find?_eq_some_iff_append.mp hfirst
  have hc : isReadable c = false := by simpa using hc
  have hstop : ∀ other ∈ (c :: (rest ++ more)).head?, isWordChar other = false ∧ other ≠ '.' := by
    refine forall_head?_cons ⟨?_, ?_⟩ (rest ++ more)
    · cases hword : isWordChar c with
      | false => rfl
      | true => simp [isReadable, hword] at hc
    · rintro rfl
      revert hc
      decide
  obtain ⟨tokens, hlexed, hcut⟩ :=
    tokenize_readable hstop fun other hother => by simpa using hfront other hother
  have hend : (tokenize (c :: (rest ++ more))).1 = [.endOfText] :=
    tokenize_unreadable hc (hquote c (List.mem_append_right front List.mem_cons_self))
      (rest ++ more)
  refine ⟨tokens, ?_, fun token htoken =>
    (hcut token htoken).mono (List.subset_append_left front (c :: rest))⟩
  rw [List.append_assoc, List.cons_append, hlexed, hend]

end Dbml.Lexer
