import Dbml.Proofs.Token.Lexemes

/-!
# The lexer comes to an end

A text is read from its front, step by step, and each step leaves an end of what the one before has
left.  A step that fails is no exception: it takes the character with it that begins no token, or
the whole text if a string is not closed.  So the steps may go on behind a failure, and still come
to the end of the text.

* `next_suffix`: a step leaves an end of the text, and `exists_taken`: one that is not the last
  takes something away;
* `getElem?_steps`: the results of many steps are those of one step each, at what has been left by
  then;
* `steps_reach_end`: of a text of `n` characters, `n + 1` steps reach the end;
* `exists_steps_eq`: the steps up to the first that is no token are what the whole text is cut into;
* `lexing_progresses`: all of this of one text.
-/

namespace Dbml.Lexer

open Text

variable {text inner rest : List Char} {quote c : Char} {count index : Nat}

/-! ### One step -/

theorem takeQuoted?_suffix (h : takeQuoted? quote text = some (inner, rest)) : rest <:+ text := by
  fun_induction takeQuoted? quote text generalizing inner rest with
  | case1 => contradiction
  | case2 tail =>
      cases h
      exact List.suffix_cons quote tail
  | case3 => contradiction
  | case4 escaped tail _ ih =>
      obtain ⟨⟨_, _⟩, htail, ⟨⟩⟩ := Option.map_eq_some_iff.mp h
      exact ((ih htail).trans (List.suffix_cons escaped tail)).trans
        (List.suffix_cons '\\' (escaped :: tail))
  | case5 c tail _ _ ih =>
      obtain ⟨⟨_, _⟩, htail, ⟨⟩⟩ := Option.map_eq_some_iff.mp h
      exact (ih htail).trans (List.suffix_cons c tail)

theorem takeWord_suffix (hc : isWordChar c = true) (text : List Char) :
    (takeWord (c :: text)).2 <:+ text := by
  have hsuffix : (takeWord (c :: text)).2 <:+ c :: text := ⟨_, text_takeWord (c :: text)⟩
  rcases List.suffix_cons_iff.mp hsuffix with hwhole | hbehind
  · have hshorter := takeWord_length hc text
    rw [hwhole, List.length_cons] at hshorter
    omega
  · exact hbehind

theorem takeToken_suffix (c : Char) (text : List Char) : (takeToken c text).2 <:+ text := by
  have htakes := takes_takeToken c text
  generalize takeToken c text = result at htakes
  cases htakes with
  | sign => exact List.suffix_rfl
  | string _ hclosed => exact takeQuoted?_suffix hclosed
  | openString => exact List.nil_suffix
  | word hword => exact takeWord_suffix hword text
  | unexpected => exact List.suffix_rfl

theorem next_suffix (text : List Char) : (next text).2 <:+ text := by
  have hskipped := skipBlanks_suffix text
  unfold next
  split
  · exact List.nil_suffix
  · rename_i c rest hskip
    rw [hskip] at hskipped
    exact (takeToken_suffix c rest).trans ((List.suffix_cons c rest).trans hskipped)

/-- In front of the end a step takes something away. -/
theorem exists_taken (h : (next text).1 ≠ .ok .endOfText) :
    ∃ taken, taken ≠ [] ∧ text = taken ++ (next text).2 := by
  obtain ⟨taken, htaken⟩ := next_suffix text
  refine ⟨taken, ?_, htaken.symm⟩
  rintro rfl
  have hshorter := next_length h
  rw [List.nil_append] at htaken
  exact absurd (congrArg List.length htaken) (Nat.ne_of_lt hshorter)

theorem next_of_end (h : (next text).1 = .ok .endOfText) : (next text).2 = [] := by
  rw [next, skipBlanks_of_next_end h]

theorem exists_blanks (h : skipBlanks text = c :: rest) :
    ∃ blanks, (∀ blank ∈ blanks, isBlank blank = true) ∧ text = blanks ++ c :: rest := by
  fun_induction skipBlanks text with
  | case1 => contradiction
  | case2 first tail hblank ih =>
      obtain ⟨blanks, hblanks, rfl⟩ := ih h
      exact ⟨first :: blanks, List.forall_mem_cons.mpr ⟨hblank, hblanks⟩, rfl⟩
  | case3 => contradiction
  | case4 first tail =>
      cases h
      exact ⟨[], List.forall_mem_nil _, rfl⟩

/-- A step that fails at a character takes this with it, and the blanks in front. -/
theorem exists_blanks_of_unexpected (h : (next text).1 = .error (.unexpectedChar c)) :
    ∃ blanks, (∀ blank ∈ blanks, isBlank blank = true) ∧ text = blanks ++ c :: (next text).2 := by
  unfold next at h ⊢
  split at h
  · contradiction
  · rename_i first tail hskip
    have htakes := takes_takeToken first tail
    generalize takeToken first tail = result at h htakes ⊢
    cases htakes with
    | unexpected =>
        cases h
        exact exists_blanks hskip
    | openString => cases h
    | _ => contradiction

/-! ### Many steps -/

/-- What is left of a text behind some steps. -/
def behindSteps : Nat → List Char → List Char
  | 0, text => text
  | count + 1, text => behindSteps count (next text).2

theorem behindSteps_succ (count : Nat) (text : List Char) :
    behindSteps (count + 1) text = (next (behindSteps count text)).2 := by
  induction count generalizing text with
  | zero => rfl
  | succ count ih => exact ih (next text).2

theorem length_steps (count : Nat) (text : List Char) : (steps count text).length = count := by
  induction count generalizing text with
  | zero => rfl
  | succ count ih => exact congrArg Nat.succ (ih (next text).2)

theorem getElem?_steps (h : index < count) (text : List Char) :
    (steps count text)[index]? = some (next (behindSteps index text)).1 := by
  induction index generalizing count text with
  | zero =>
      cases count with
      | zero => contradiction
      | succ count => rfl
  | succ index ih =>
      cases count with
      | zero => contradiction
      | succ count => exact ih (Nat.lt_of_succ_lt_succ h) (next text).2

theorem getElem?_steps_eq_some_iff {result : Except LexError Token} :
    (steps count text)[index]? = some result ↔
      index < count ∧ (next (behindSteps index text)).1 = result := by
  by_cases h : index < count
  · simp [getElem?_steps h, h]
  · simp [length_steps, h]

theorem next_behindSteps_of_le {first later : Nat} (hle : first ≤ later)
    (hend : (next (behindSteps first text)).1 = .ok .endOfText) :
    (next (behindSteps later text)).1 = .ok .endOfText := by
  induction later, hle using Nat.le_induction with
  | base => exact hend
  | succ later _ ih =>
      rw [behindSteps_succ, next_of_end ih]
      rfl

/-- There are no more steps in front of the end than characters. -/
theorem steps_reach_end (h : text.length < count) : .ok .endOfText ∈ steps count text := by
  induction count generalizing text with
  | zero => contradiction
  | succ count ih =>
      rw [steps]
      by_cases hend : (next text).1 = .ok .endOfText
      · rw [hend]
        exact List.mem_cons_self
      · have hshorter := next_length hend
        exact List.mem_cons_of_mem _ (ih (by omega))

/-- Where each character is a token, all of them are in front of the end. -/
example : steps 3 "(()".toList =
    [.ok .leftParen, .ok .leftParen, .ok .rightParen] := by decide +kernel

/-- The tokens of a text are the results in front of the first that is an error or the end. -/
theorem exists_steps_eq (h : text.length < count) :
    ∃ tokens last more, steps count text = tokens.map .ok ++ last :: more ∧ .endOfText ∉ tokens ∧
      (last = .ok .endOfText ∧ tokenize text = (tokens ++ [.endOfText], none) ∨
        ∃ error, last = .error error ∧ tokenize text = (tokens ++ [.endOfText], some error)) := by
  obtain ⟨count, rfl⟩ := Nat.exists_eq_succ_of_ne_zero (Nat.ne_of_gt (Nat.zero_lt_of_lt h))
  fun_induction tokenize text generalizing count with
  | case1 text error herror =>
      exact ⟨[], .error error, steps count (next text).2, by rw [steps, herror]; rfl,
        List.not_mem_nil, .inr ⟨error, rfl, rfl⟩⟩
  | case2 text hend =>
      exact ⟨[], .ok .endOfText, steps count (next text).2, by rw [steps, hend]; rfl,
        List.not_mem_nil, .inl ⟨rfl, rfl⟩⟩
  | case3 text token htoken hend others failure hothers ih =>
      have hshorter : (next text).2.length < text.length :=
        next_length (by rw [htoken]; simpa using hend)
      obtain ⟨count, rfl⟩ := Nat.exists_eq_succ_of_ne_zero (show count ≠ 0 by omega)
      obtain ⟨tokens, last, more, hsteps, hends, hlast⟩ := ih count (by omega)
      refine ⟨token :: tokens, last, more, ?_,
        List.not_mem_cons_of_ne_of_not_mem (Ne.symm hend) hends, ?_⟩
      · rw [steps, htoken, hsteps]
        rfl
      · rw [hothers] at hlast
        rcases hlast with ⟨rfl, hsame⟩ | ⟨error, rfl, hsame⟩
        · cases hsame
          exact .inl ⟨rfl, rfl⟩
        · cases hsame
          exact .inr ⟨error, rfl, rfl⟩

/-- **The lexer comes to an end, also behind failures.**  Each step that does not find the end of
the text takes something away from the front of what is left, so that of a text of `n` characters
one of `n + 1` steps finds it, and all steps behind that one find it again.  Up to the first step
that finds no token, the tokens are those of the whole text. -/
theorem lexing_progresses (text : List Char) :
    (∀ count index result, (steps count text)[index]? = some result → result ≠ .ok .endOfText →
      ∃ taken, taken ≠ [] ∧ behindSteps index text = taken ++ behindSteps (index + 1) text) ∧
    (∀ count index c, (steps count text)[index]? = some (.error (.unexpectedChar c)) →
      ∃ blanks, (∀ blank ∈ blanks, isBlank blank = true) ∧
        behindSteps index text = blanks ++ c :: behindSteps (index + 1) text) ∧
    .ok .endOfText ∈ steps (text.length + 1) text ∧
    (∀ count first later, first ≤ later → later < count →
      (steps count text)[first]? = some (.ok .endOfText) →
      (steps count text)[later]? = some (.ok .endOfText)) ∧
    ∃ tokens last more, steps (text.length + 1) text = tokens.map .ok ++ last :: more ∧
      .endOfText ∉ tokens ∧
      (last = .ok .endOfText ∧ tokenize text = (tokens ++ [.endOfText], none) ∨
        ∃ error, last = .error error ∧ tokenize text = (tokens ++ [.endOfText], some error)) := by
  have hlength : text.length < text.length + 1 := Nat.lt_succ_self text.length
  refine ⟨?_, ?_, steps_reach_end hlength, ?_, exists_steps_eq hlength⟩
  · intro count index result hresult hend
    obtain ⟨-, rfl⟩ := getElem?_steps_eq_some_iff.mp hresult
    rw [behindSteps_succ]
    exact exists_taken hend
  · intro count index c hresult
    obtain ⟨-, herror⟩ := getElem?_steps_eq_some_iff.mp hresult
    rw [behindSteps_succ]
    exact exists_blanks_of_unexpected herror
  · intro count first later hle hlater hfirst
    obtain ⟨-, hend⟩ := getElem?_steps_eq_some_iff.mp hfirst
    exact getElem?_steps_eq_some_iff.mpr ⟨hlater, next_behindSteps_of_le hle hend⟩

/-- A text with two failures and a word between them: a stray character, and a string that is not
closed, because a backslash takes its last character away. -/
def failingText : List Char :=
  "@ a 'b\\'".toList

/-- Its end is found by the fourth step and by all behind it. -/
theorem lexing_progresses_of_failingText :
    (steps 9 failingText)[0]? = some (.error (.unexpectedChar '@')) ∧
    (∃ taken, taken ≠ [] ∧ behindSteps 0 failingText = taken ++ behindSteps 1 failingText) ∧
    (steps 9 failingText)[3]? = some (.ok .endOfText) ∧
      (steps 9 failingText)[8]? = some (.ok .endOfText) := by
  obtain ⟨htaken, -, -, hends, -⟩ := lexing_progresses failingText
  have hfailure : (steps 9 failingText)[0]? = some (.error (.unexpectedChar '@')) := by
    decide +kernel
  have hend : (steps 9 failingText)[3]? = some (.ok .endOfText) := by decide +kernel
  exact ⟨hfailure, htaken 9 0 _ hfailure (by simp), hend, hends 9 3 8 (by decide) (by decide) hend⟩

end Dbml.Lexer
