import Dbml.Proofs.Token.Lexemes
import Dbml.Proofs.Token.Quoted

/-!
# Tokens that are read back from their text

Tokens are put together with a blank between any two words and nothing between the others.  The
lexer gives them back if it can tell them apart in what they make up.  There are two ways in which
it cannot, and no third:

```text
'it's'      a string with a quote or a backslash in it, since nothing is escaped
1.5         the number 1, a point and the number 5, since a point takes digits with it
```

* `Token.EndsBefore`: a token is not one of these, given the ones behind it;
* `renderAfter_stops`: behind a word the text goes on with no character of a word, so that it ends
  there;
* `next_text_iff`: so a token is read back just if it ends before those behind it;
* `rendered_tokens_read_back_iff`: over a list, `Token.IsRenderable` says this of each.
-/

namespace Dbml

namespace Token

/-- The text of a token ends where that of the ones behind it begins.  A string does if nothing in
it has to be escaped, and a number if it has its decimal part or finds none. -/
def EndsBefore (rest : List Token) : Token → Prop
  | .str text => ∀ c ∈ text.toList, c ≠ '\'' ∧ c ≠ '\\'
  | .num number =>
    '.' ∉ number.toList →
      ∀ next others, rest = .dot :: next :: others → ∀ c ∈ next.text.head?, c.isDigit = false
  | _ => True

/-- The tokens can be told apart in the text that they make up. -/
structure IsRenderable (tokens : List Token) : Prop where
  /-- Each is a word, a number, a string or a sign. -/
  lexeme : ∀ token ∈ tokens, token.IsLexeme
  /-- Nothing in a string has to be escaped. -/
  plain : ∀ text, .str text ∈ tokens → ∀ c ∈ text.toList, c ≠ '\'' ∧ c ≠ '\\'
  /-- Behind a number without a decimal part there is none. -/
  apart : ∀ number next, [.num number, .dot, next] <:+: tokens → '.' ∉ number.toList →
    ∀ c ∈ next.text.head?, c.isDigit = false

variable {token : Token} {tokens rest : List Token}

theorem isRenderable_nil : IsRenderable [] where
  lexeme := List.forall_mem_nil _
  plain _ h := absurd h List.not_mem_nil
  apart _ _ h := absurd (List.infix_nil.mp h) (List.cons_ne_nil _ _)

theorem isRenderable_cons :
    IsRenderable (token :: rest) ↔
      (token.IsLexeme ∧ token.EndsBefore rest) ∧ IsRenderable rest := by
  constructor
  · rintro ⟨hlexeme, hplain, hapart⟩
    obtain ⟨htoken, hothers⟩ := List.forall_mem_cons.mp hlexeme
    refine ⟨⟨htoken, ?_⟩, hothers, fun text h => hplain text (List.mem_cons_of_mem token h),
      fun number next h => hapart number next (List.infix_cons h)⟩
    cases token with
    | str text => exact hplain text List.mem_cons_self
    | num number =>
        rintro hpoint next others rfl
        have hinside := (List.prefix_append [.num number, .dot, next] others).isInfix
        exact hapart number next hinside hpoint
    | _ => trivial
  · rintro ⟨⟨htoken, hends⟩, hothers⟩
    refine ⟨List.forall_mem_cons.mpr ⟨htoken, hothers.lexeme⟩, ?_, ?_⟩
    · intro text hmem
      rcases List.mem_cons.mp hmem with rfl | hmem
      · exact hends
      · exact hothers.plain text hmem
    · intro number next hmem hpoint
      rcases List.infix_cons_iff.mp hmem with ⟨others, hrest⟩ | hmem
      · obtain ⟨rfl, rfl⟩ := List.cons.inj hrest
        exact hends hpoint next others rfl
      · exact hothers.apart number next hmem hpoint

/-! ### What stands behind a token -/

theorem renderAfter_stops (h : ∀ token ∈ rest, token.IsLexeme) :
    ∀ c ∈ (renderAfter true rest).head?, Text.isWordChar c = false := by
  intro c hc
  cases rest with
  | nil => simp [renderAfter] at hc
  | cons token rest =>
      cases token with
      | endOfText => exact absurd (h .endOfText List.mem_cons_self) id
      | _ =>
          obtain rfl : _ = c := by simpa [renderAfter, isWord, text] using hc
          decide

theorem text_ne_nil (h : token.IsLexeme) : token.text ≠ [] := by
  cases token with
  | ident word => exact h.1
  | num number =>
      rw [text]
      rw [IsLexeme] at h
      generalize number.toList = written at h
      cases h with
      | whole digits => exact digits.ne_nil
      | decimal whole fraction => simp
  | endOfText => exact absurd h id
  | _ => simp [text]

theorem renderAfter_dot (afterWord : Bool) (rest : List Token) :
    renderAfter afterWord (.dot :: rest) = '.' :: renderAfter false rest := by
  simp [renderAfter, isWord, text]

theorem renderAfter_false_cons (token : Token) (rest : List Token) :
    renderAfter false (token :: rest) = token.text ++ renderAfter token.isWord rest :=
  rfl

/-- Behind a word a decimal part begins just where a point and a digit come next. -/
theorem takeFraction_renderAfter_iff (h : ∀ token ∈ rest, token.IsLexeme) :
    (Lexer.takeFraction (renderAfter true rest)).1 = [] ↔
      ∀ next others, rest = .dot :: next :: others → ∀ c ∈ next.text.head?, c.isDigit = false := by
  rw [Lexer.takeFraction_eq_nil_iff]
  constructor
  · rintro hdigit next others rfl c hc
    obtain ⟨behind, htext⟩ := List.head?_eq_some_iff.mp hc
    apply hdigit c (behind ++ renderAfter next.isWord others)
    rw [renderAfter_dot, renderAfter_false_cons, htext]
    rfl
  · intro hapart c behind hpoint
    cases rest with
    | nil => simp [renderAfter] at hpoint
    | cons token rest =>
        cases token with
        | dot =>
            rw [renderAfter_dot] at hpoint
            cases rest with
            | nil => simp [renderAfter] at hpoint
            | cons next others =>
                have hnext := text_ne_nil (h next (List.mem_cons_of_mem _ List.mem_cons_self))
                obtain ⟨first, tail, htext⟩ := List.exists_cons_of_ne_nil hnext
                rw [renderAfter_false_cons, htext] at hpoint
                obtain rfl : first = c := (List.cons.inj (List.cons.inj hpoint).2).1
                exact hapart next others rfl first (congrArg List.head? htext)
        | endOfText => exact absurd (h .endOfText List.mem_cons_self) id
        | _ => simp [renderAfter, isWord, text] at hpoint

/-! ### Reading back -/

section Next

variable (hrest : ∀ other ∈ rest, other.IsLexeme) {behind : List Char}

include hrest

/-- Digits are read back just if no decimal part comes behind them. -/
theorem next_digits_iff (digits : Digits) :
    Lexer.next (digits.text ++ renderAfter true rest) =
      (.ok (.num (String.ofList digits.text)), behind) ↔
      EndsBefore rest (.num (String.ofList digits.text)) ∧ behind = renderAfter true rest := by
  have hpoint : '.' ∉ digits.text := fun hmem => absurd (digits.isDigit '.' hmem) (by decide)
  have hends : EndsBefore rest (.num (String.ofList digits.text)) ↔
      (Lexer.takeFraction (renderAfter true rest)).1 = [] := by
    rw [takeFraction_renderAfter_iff hrest, EndsBefore, String.toList_ofList,
      forall_prop_of_true hpoint]
  have hsplit := Lexer.takeFraction_split (renderAfter true rest)
  rw [Lexer.next_number digits.ne_nil digits.all_isDigit (renderAfter_stops hrest), hends]
  simp only [Prod.mk.injEq, Except.ok.injEq, num.injEq, String.ofList_inj,
    List.append_right_eq_self]
  refine and_congr_right fun hnone => ?_
  rw [hnone, List.nil_append] at hsplit
  rw [hsplit]
  exact eq_comm

/-- A token in front of others is the next one of their text just if it ends there, and leaves them
behind it. -/
theorem next_text_iff (htoken : token.IsLexeme) :
    Lexer.next (token.text ++ renderAfter token.isWord rest) = (.ok token, behind) ↔
      token.EndsBefore rest ∧ behind = renderAfter token.isWord rest := by
  have hstop := renderAfter_stops hrest
  cases token with
  | ident word =>
      obtain ⟨hne, hword, hdigits⟩ := htoken
      have hnext := Lexer.next_word hword hstop hne (by simpa using hdigits)
      simp [text, isWord, EndsBefore, hnext, eq_comm]
  | num number =>
      obtain ⟨written, rfl⟩ : ∃ written, number = String.ofList written :=
        ⟨number.toList, String.ofList_toList.symm⟩
      rw [IsLexeme, String.toList_ofList] at htoken
      rw [text, isWord, String.toList_ofList]
      cases htoken with
      | whole digits => exact next_digits_iff hrest digits
      | decimal whole fraction =>
          have hdigit : ∀ c ∈ (renderAfter true rest).head?, c.isDigit = false := fun c hc =>
            Lexer.isDigit_of_not_isWordChar (hstop c hc)
          have hnext := Lexer.next_fraction whole fraction hdigit
          have hpoint : '.' ∈ whole.text ++ '.' :: fraction.text := by simp
          rw [List.append_assoc, List.cons_append, hnext, EndsBefore, String.toList_ofList]
          simp [hpoint, eq_comm (a := behind)]
  | str inner =>
      have hquote : '\'' ≠ '\\' := by decide
      rw [text, isWord, List.append_assoc, List.cons_append, List.singleton_append,
        Lexer.next_eq_str_iff (by decide), Lexer.takeQuoted?_itself_iff hquote]
      rfl
  | endOfText => exact absurd htoken id
  | _ =>
      rw [text, List.singleton_append, Lexer.next_sign rfl]
      simp [EndsBefore, eq_comm]

end Next

end Token

namespace Lexer

open Token

variable {tokens : List Token}

theorem tokenize_renderAfter_iff (h : ∀ token ∈ tokens, token.IsLexeme) (afterWord : Bool) :
    tokenize (renderAfter afterWord tokens) = (tokens ++ [.endOfText], none) ↔
      IsRenderable tokens := by
  -- what stands before the tokens only decides on a blank, which the lexer skips
  induction tokens generalizing afterWord with
  | nil => exact iff_of_true tokenize_nil isRenderable_nil
  | cons token rest ih =>
      obtain ⟨htoken, hrest⟩ := List.forall_mem_cons.mp h
      have hnext : next (renderAfter afterWord (token :: rest)) =
          next (token.text ++ renderAfter token.isWord rest) := by
        rw [renderAfter, List.append_assoc]
        split
        · exact next_blank (by decide) _
        · rfl
      rw [List.cons_append, tokenize_eq_cons_iff htoken.ne_end, hnext, isRenderable_cons]
      constructor
      · rintro ⟨behind, hread, hothers⟩
        obtain ⟨hends, rfl⟩ := (next_text_iff hrest htoken).mp hread
        exact ⟨⟨htoken, hends⟩, (ih hrest token.isWord).mp hothers⟩
      · rintro ⟨⟨-, hends⟩, hothers⟩
        exact ⟨_, (next_text_iff hrest htoken).mpr ⟨hends, rfl⟩,
          (ih hrest token.isWord).mpr hothers⟩

/-- **Tokens are read back from their text** just if each of them is one that there is, no string
has anything to escape, and no number is taken for one with a decimal part. -/
theorem rendered_tokens_read_back_iff (tokens : List Token) :
    tokenize? (render tokens).toList = .ok (tokens ++ [.endOfText]) ↔ IsRenderable tokens := by
  rw [tokenize?_eq_ok_iff, render, String.toList_ofList]
  constructor
  · intro hread
    obtain ⟨others, hothers, hlexemes⟩ := exists_lexemes (renderAfter false tokens)
    rw [hread] at hothers
    obtain rfl := List.append_cancel_right hothers
    exact (tokenize_renderAfter_iff hlexemes false).mp hread
  · intro hrender
    exact (tokenize_renderAfter_iff hrender.lexeme false).mpr hrender

example : tokenize? (render [.num "1", .dot, .num "5"]).toList =
    .ok [.num "1.5", .endOfText] := by decide +kernel

end Lexer

end Dbml
