import Dbml.Proofs.Token.Lexing

/-!
# Quoted strings

Any text can stand between two quotes.  In it the quote and the backslash are written behind a
backslash; a line feed, a tab and a carriage return may be written by their names, which are letters
behind a backslash.  However that is chosen from one character to the next, the lexer gives back the
text and what stands behind the closing quote.

* `spell`: a character as it stands between quotes, and `spelled`, a text of such characters;
* `takeQuoted?_spell_append`: whichever way a character is written, it is read off the front as
  itself;
* `takeQuoted?_spelled_append`: so is a text, in which nothing closes the string;
* `next_spelled`: a string ends at its closing quote, and is unterminated without one.
-/

namespace Dbml.Lexer

/-! ### One character of a string -/

section Character

variable {quote c : Char}

theorem unescape_of_isQuote (h : isQuote quote = true) : quote ≠ '\\' ∧ unescape quote = quote := by
  simp only [isQuote, Bool.or_eq_true, decide_eq_true_eq] at h
  rcases h with (rfl | rfl) | rfl <;> decide

theorem unescape_ne_backslash (h : c ≠ '\\') : unescape c ≠ '\\' := by
  unfold unescape
  split
  · decide
  · split
    · decide
    · split
      · decide
      · exact h

end Character

/-! ### Writing a string -/

/-- A character as it is written between two of the given quotes.  The quote and the backslash stand
behind a backslash, and so do the names of a line feed, a tab and a carriage return, where these are
written by name. -/
def spell (quote : Char) (byName : Bool) (c : Char) : List Char :=
  if c = quote ∨ c = '\\' then ['\\', c]
  else if byName then
    match c with
    | '\n' => ['\\', 'n']
    | '\t' => ['\\', 't']
    | '\r' => ['\\', 'r']
    | c => [c]
  else [c]

/-- A text as it is written between two of the given quotes.  With each character comes the choice
whether it is written by name, if it has one; where none is, a backslash is put in front of every
quote and every backslash, and nothing else is done. -/
def spelled (quote : Char) (letters : List (Char × Bool)) : List Char :=
  letters.flatMap fun (c, byName) => spell quote byName c

section Spelling

variable {quote : Char} (hquote : isQuote quote = true)

include hquote

theorem takeQuoted?_spell_append (byName : Bool) (c : Char) (text : List Char) :
    takeQuoted? quote (spell quote byName c ++ text) =
      (takeQuoted? quote text).map fun (inner, rest) => (c :: inner, rest) := by
  obtain ⟨hbackslash, hitself⟩ := unescape_of_isQuote hquote
  have hescaped (name : Char) : takeQuoted? quote (['\\', name] ++ text) =
      (takeQuoted? quote text).map fun (inner, rest) => (unescape name :: inner, rest) :=
    takeQuoted?_backslash hbackslash name text
  unfold spell
  split
  · rename_i hc
    rw [hescaped]
    rcases hc with rfl | rfl
    · rw [hitself]
    · rfl
  · rename_i hc
    obtain ⟨hne, hplain⟩ := not_or.mp hc
    have hcons := takeQuoted?_cons hne hplain text
    split
    · split
      · exact hescaped 'n'
      · exact hescaped 't'
      · exact hescaped 'r'
      · exact hcons
    · exact hcons

theorem takeQuoted?_spelled_append (letters : List (Char × Bool)) (text : List Char) :
    takeQuoted? quote (spelled quote letters ++ text) =
      (takeQuoted? quote text).map fun (inner, rest) => (letters.map Prod.fst ++ inner, rest) := by
  induction letters with
  | nil => simp [spelled]
  | cons letter letters ih =>
      obtain ⟨c, byName⟩ := letter
      have hsplit : spelled quote ((c, byName) :: letters) ++ text =
          spell quote byName c ++ (spelled quote letters ++ text) := by
        simp [spelled]
      rw [hsplit, takeQuoted?_spell_append hquote, ih, Option.map_map]
      rfl

/-- **Quoted strings are decoded.**  Behind a quote, whatever text is written up to the same quote
is the string, with the lexer right behind it; without that quote the string is unterminated. -/
theorem next_spelled (letters : List (Char × Bool)) (rest : List Char) :
    next (quote :: (spelled quote letters ++ quote :: rest)) =
        (.ok (.str (String.ofList (letters.map Prod.fst))), rest) ∧
      next (quote :: spelled quote letters) = (.error .unterminatedString, []) := by
  constructor
  · apply next_quote hquote
    rw [takeQuoted?_spelled_append hquote, takeQuoted?_quote]
    simp
  · apply next_open_quote hquote
    have hopen := takeQuoted?_spelled_append hquote letters []
    rw [List.append_nil, takeQuoted?] at hopen
    exact hopen

end Spelling

/-! ### Strings without escapes -/

section Plain

variable {quote : Char} {text inner rest behind : List Char}

theorem takeQuoted?_plain (h : ∀ c ∈ text, c ≠ quote ∧ c ≠ '\\') (rest : List Char) :
    takeQuoted? quote (text ++ quote :: rest) = some (text, rest) := by
  induction text with
  | nil => exact takeQuoted?_quote quote rest
  | cons c text ih =>
      obtain ⟨⟨hclosed, hescape⟩, hothers⟩ := List.forall_mem_cons.mp h
      rw [List.cons_append, takeQuoted?_cons hclosed hescape, ih hothers]
      rfl

theorem backslashes_takeQuoted? (h : takeQuoted? quote text = some (inner, rest)) :
    2 * (inner.takeWhile (· = '\\')).length ≤ (text.takeWhile (· = '\\')).length := by
  fun_induction takeQuoted? quote text generalizing inner rest with
  | case1 => contradiction
  | case2 tail =>
      cases h
      exact Nat.zero_le _
  | case3 => contradiction
  | case4 escaped tail hclosed ih =>
      obtain ⟨⟨others, behind⟩, htail, hpair⟩ := Option.map_eq_some_iff.mp h
      cases hpair
      have hothers := ih htail
      by_cases hescaped : escaped = '\\'
      · subst hescaped
        have hitself : unescape '\\' = '\\' := rfl
        simp [hitself]
        omega
      · simp [unescape_ne_backslash hescaped]
  | case5 c tail hclosed hescape ih =>
      obtain ⟨⟨others, behind⟩, htail, hpair⟩ := Option.map_eq_some_iff.mp h
      cases hpair
      simp [hescape]

/-- A text is read as itself just if nothing in it has to be escaped. -/
theorem takeQuoted?_itself_iff (hquote : quote ≠ '\\') :
    takeQuoted? quote (text ++ quote :: rest) = some (text, behind) ↔
      (∀ c ∈ text, c ≠ quote ∧ c ≠ '\\') ∧ behind = rest := by
  constructor
  · intro h
    induction text with
    | nil =>
        rw [List.nil_append, takeQuoted?_quote] at h
        exact ⟨List.forall_mem_nil _, (Prod.mk.inj (Option.some.inj h)).2.symm⟩
    | cons c text ih =>
        have hclosed : c ≠ quote := by
          rintro rfl
          rw [List.cons_append, takeQuoted?_quote] at h
          cases h
        have hescape : c ≠ '\\' := by
          rintro rfl
          -- there are not twice as many of them in front of the closing quote
          have hstop : ∀ c ∈ (quote :: rest).head?, decide (c = '\\') = false :=
            Text.forall_head?_cons (by simpa using hquote) rest
          have htwice := backslashes_takeQuoted? h
          rw [(Text.takeWhile_append_stop hstop _).1] at htwice
          simp at htwice
        rw [List.cons_append, takeQuoted?_cons hclosed hescape] at h
        obtain ⟨⟨others, rest'⟩, htail, hpair⟩ := Option.map_eq_some_iff.mp h
        cases hpair
        obtain ⟨hothers, hrest⟩ := ih htail
        exact ⟨List.forall_mem_cons.mpr ⟨⟨hclosed, hescape⟩, hothers⟩, hrest⟩
  · rintro ⟨hplain, rfl⟩
    exact takeQuoted?_plain hplain behind

end Plain

/-- In backticks, with a line feed by name behind one as it is, and what looks like a comment. -/
theorem next_spelled_of_backticks :
    isQuote '`' = true ∧
      next "`a\\`\n\\n//\\\\` b".toList = (.ok (.str "a`\n\n//\\"), " b".toList) ∧
      next "`a\\`\n\\n//\\\\".toList = (.error .unterminatedString, []) :=
  ⟨rfl, next_spelled (by decide)
    [('a', false), ('`', false), ('\n', false), ('\n', true), ('/', false), ('/', true),
      ('\\', true)] " b".toList⟩

end Dbml.Lexer
