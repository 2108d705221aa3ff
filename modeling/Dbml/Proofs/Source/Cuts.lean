import Mathlib.Data.List.Chain
import Dbml.Proofs.Source.Braces
import Dbml.Proofs.Source.Cursor

/-!
# Where a line is cut

A line is cut into statements behind each opening brace and on both sides of each closing one, as
long as it stands in no square brackets.  Here this is said of the statements alone, without the
order in which the tokens are read: what the statements are, and where one may end.

* `IsStatement`: the braces of a statement that stand in no brackets; brackets are counted anew in
  each statement;
* `IsCut`: where one statement ends and another begins;
* `statements_eq_iff`: a line has just one division into statements that is cut nowhere else, and
  this is the one;
* `slices_spansAfter`: the statements are also what is cut out between positions of the line, which
  are all in it;
* `line_is_cut_into_statements`: so nothing is lost and nothing comes twice.
-/

namespace Dbml.Source

/-- What a line is cut into: some tokens, of which a closing brace outside of square brackets is the
only one, and an opening brace outside of them is the last. -/
structure IsStatement (statement : List Token) : Prop where
  ne_nil : statement ≠ []
  closing_alone : ∀ before after, statement = before ++ .rightBrace :: after →
    openBrackets 0 before = 0 →
    before = [] ∧ after = []
  opening_last : ∀ before after, statement = before ++ .leftBrace :: after →
    openBrackets 0 before = 0 →
    after = []

/-- Where a line may be cut: no bracket is open there, and an opening or closing brace stands in
front or a closing one behind. -/
def IsCut (statement next : List Token) : Prop :=
  openBrackets 0 statement = 0 ∧
    (next = [.rightBrace] ∨ ∃ brace, statement.getLast? = some brace ∧ isBrace brace = true)

/-- The positions where the statements of a line begin and end, from the token at `position` on, of
a line in which the statement begun there begins at `start` and has `depth` open square brackets. -/
def spansAfter (depth start position : Nat) : List Token → List (Nat × Nat)
  | [] => if start < position then [(start, position)] else []
  | token :: rest =>
    if depth = 0 ∧ token = .leftBrace then
      (start, position + 1) :: spansAfter 0 (position + 1) (position + 1) rest
    else if depth = 0 ∧ token = .rightBrace then
      (if start < position then [(start, position)] else []) ++
        (position, position + 1) :: spansAfter 0 (position + 1) (position + 1) rest
    else spansAfter (bracketsBehind depth token) start (position + 1) rest

/-- The positions where the statements of a line begin and end. -/
def spans (tokens : List Token) : List (Nat × Nat) :=
  spansAfter 0 0 0 (withoutEnd tokens)

variable {depth : Nat} {front rest pending tokens statement next before after : List Token}
  {token brace : Token}

/-! ### Statements -/

theorem not_isBrace_of_outerBraces (h : outerBraces 0 tokens = [])
    (htokens : tokens = before ++ token :: after)
    (hdepth : openBrackets 0 before = 0) : isBrace token = false := by
  rw [htokens, outerBraces_append, hdepth] at h
  obtain ⟨-, h⟩ := List.append_eq_nil_iff.mp h
  by_contra hbrace
  rw [Bool.not_eq_false] at hbrace
  rw [outerBraces_cons_brace hbrace] at h
  contradiction

theorem eq_last_of_isBrace (h : outerBraces 0 front = [])
    (htokens : front ++ [brace] = before ++ token :: after)
    (hdepth : openBrackets 0 before = 0) (htoken : isBrace token = true) :
    before = front ∧ token = brace ∧ after = [] := by
  rcases List.eq_nil_or_concat after with rfl | ⟨others, last, rfl⟩
  · obtain ⟨hfront, hlast⟩ := List.append_inj' htokens rfl
    exact ⟨hfront.symm, (List.cons.inj hlast).1.symm, rfl⟩
  · rw [List.concat_eq_append, ← List.cons_append, ← List.append_assoc] at htokens
    have hinside := not_isBrace_of_outerBraces h (List.append_inj_left' htokens rfl) hdepth
    rw [htoken] at hinside
    contradiction

/-- There are three kinds of statements: without braces outside of brackets, with an opening one at
the end, and a closing one. -/
theorem isStatement_iff : IsStatement statement ↔
    (statement ≠ [] ∧ outerBraces 0 statement = []) ∨
    (∃ front, statement = front ++ [.leftBrace] ∧ outerBraces 0 front = [] ∧
      openBrackets 0 front = 0) ∨
    statement = [.rightBrace] := by
  constructor
  · intro h
    rcases exists_cut 0 statement with hplain | ⟨front, brace, rest, hsplit, hfront, hdepth, hbrace⟩
    · exact .inl ⟨h.ne_nil, hplain⟩
    · cases brace with
      | leftBrace =>
          obtain rfl := h.opening_last front rest hsplit hdepth
          exact .inr (.inl ⟨front, hsplit, hfront, hdepth⟩)
      | rightBrace =>
          obtain ⟨rfl, rfl⟩ := h.closing_alone front rest hsplit hdepth
          exact .inr (.inr hsplit)
      | _ => contradiction
  · rintro (⟨hne, hplain⟩ | ⟨front, rfl, hfront, -⟩ | rfl)
    · refine ⟨hne, fun before after htokens hdepth => ?_, fun before after htokens hdepth => ?_⟩ <;>
        exact absurd (not_isBrace_of_outerBraces hplain htokens hdepth) (by decide)
    · refine ⟨by simp, fun before after htokens hdepth => ?_, fun before after htokens hdepth => ?_⟩
      · have hlast := (eq_last_of_isBrace hfront htokens hdepth rfl).2.1
        contradiction
      · exact (eq_last_of_isBrace hfront htokens hdepth rfl).2.2
    · have hnone : outerBraces 0 [] = [] := rfl
      refine ⟨by simp, fun before after htokens hdepth => ?_, fun before after htokens hdepth => ?_⟩
      · rw [← List.nil_append [Token.rightBrace]] at htokens
        obtain ⟨hbefore, -, hafter⟩ := eq_last_of_isBrace hnone htokens hdepth rfl
        exact ⟨hbefore, hafter⟩
      · rw [← List.nil_append [Token.rightBrace]] at htokens
        exact (eq_last_of_isBrace hnone htokens hdepth rfl).2.2

/-! ### What a line is cut into -/

theorem IsStatement.statementsAfter_eq (h : IsStatement statement) :
    statementsAfter 0 [] statement = [statement] := by
  rcases isStatement_iff.mp h with ⟨hne, hplain⟩ | ⟨front, rfl, hfront, hdepth⟩ | rfl
  · rw [statementsAfter_plain hplain, if_neg hne]
  · exact statementsAfter_opening hfront hdepth []
  · rfl

theorem statementsAfter_of_isCut (h : IsStatement statement) (hcut : IsCut statement next)
    (rest : List Token) :
    statementsAfter 0 [] (statement ++ (next ++ rest)) =
      statement :: statementsAfter 0 [] (next ++ rest) := by
  obtain ⟨hdepth, hcut⟩ := hcut
  have hbraced : ∀ brace, statement.getLast? = some brace → isBrace brace = true →
      statementsAfter 0 [] (statement ++ (next ++ rest)) =
        statement :: statementsAfter 0 [] (next ++ rest) := by
    intro brace hlast hbrace
    obtain ⟨front, rfl⟩ := List.getLast?_eq_some_iff.mp hlast
    rw [openBrackets_append, openBrackets_cons_brace hbrace] at hdepth
    have hfront : openBrackets 0 front = 0 := hdepth
    rw [List.append_assoc, List.singleton_append, statementsAfter_append hfront hbrace,
      h.statementsAfter_eq]
    rfl
  rcases hcut with rfl | ⟨brace, hlast, hbrace⟩
  · rcases isStatement_iff.mp h with ⟨hne, hplain⟩ | ⟨front, rfl, -⟩ | rfl
    · have hclosing : statementsAfter 0 [] (.rightBrace :: rest) =
        [.rightBrace] :: statementsAfter 0 [] rest := rfl
      rw [List.singleton_append, statementsAfter_closing hplain hdepth,
        statementsAfter_plain hplain, if_neg hne, hclosing]
      rfl
    · exact hbraced .leftBrace (by simp) rfl
    · exact hbraced .rightBrace rfl rfl
  · exact hbraced brace hlast hbrace

/-- Some tokens are divided into statements, and only where they may be cut. -/
structure Divides (parts : List (List Token)) (tokens : List Token) : Prop where
  flatten_eq : parts.flatten = tokens
  isStatement : ∀ part ∈ parts, IsStatement part
  isChain : parts.IsChain IsCut

theorem divides_nil : Divides [] [] :=
  ⟨rfl, List.forall_mem_nil _, List.isChain_nil⟩

theorem Divides.cons {parts : List (List Token)} (h : Divides parts tokens)
    (hstatement : IsStatement statement) (hcut : ∀ next ∈ parts.head?, IsCut statement next) :
      Divides (statement :: parts) (statement ++ tokens) where
  flatten_eq := by rw [List.flatten_cons, h.flatten_eq]
  isStatement := List.forall_mem_cons.mpr ⟨hstatement, h.isStatement⟩
  isChain := List.isChain_cons.mpr ⟨hcut, h.isChain⟩

/-- What is divided into statements is cut into these. -/
theorem Divides.statementsAfter_eq {parts : List (List Token)} (h : Divides parts tokens) :
    statementsAfter 0 [] tokens = parts := by
  obtain ⟨rfl, hparts, hcuts⟩ := h
  induction parts with
  | nil => rfl
  | cons part others ih =>
      obtain ⟨hpart, hothers⟩ := List.forall_mem_cons.mp hparts
      cases others with
      | nil => rw [List.flatten_cons, List.flatten_nil, List.append_nil, hpart.statementsAfter_eq]
      | cons next others =>
          obtain ⟨hcut, hcuts⟩ := List.isChain_cons_cons.mp hcuts
          have hrest := ih hothers hcuts
          rw [List.flatten_cons] at hrest
          rw [List.flatten_cons, List.flatten_cons, statementsAfter_of_isCut hpart hcut, hrest]

theorem divides_statementsAfter (tokens : List Token) :
    Divides (statementsAfter 0 [] tokens) tokens := by
  induction tokens using induction_on_outerBraces with
  | plain tokens hplain =>
      rw [statementsAfter_plain hplain]
      split
      · rename_i hnil
        rw [hnil]
        exact divides_nil
      · rename_i hne
        have hstatement : IsStatement tokens := isStatement_iff.mpr (.inl ⟨hne, hplain⟩)
        have hone := divides_nil.cons hstatement (by simp)
        rwa [List.append_nil] at hone
  | opening front rest hfront hdepth ih =>
      have hstatement : IsStatement (front ++ [.leftBrace]) :=
        isStatement_iff.mpr (.inr (.inl ⟨front, rfl, hfront, hdepth⟩))
      have hcut : ∀ next, IsCut (front ++ [.leftBrace]) next := fun next =>
        ⟨openBrackets_cut hdepth rfl [], .inr ⟨.leftBrace, by simp, rfl⟩⟩
      have hbehind := ih.cons hstatement fun next _ => hcut next
      rw [List.append_assoc] at hbehind
      rw [statementsAfter_opening hfront hdepth]
      exact hbehind
  | closing front rest hfront hdepth ih =>
      have hclosing : IsStatement [.rightBrace] := isStatement_iff.mpr (.inr (.inr rfl))
      have hcut : ∀ next, IsCut [.rightBrace] next :=
        fun next => ⟨rfl, .inr ⟨.rightBrace, rfl, rfl⟩⟩
      have hbehind := ih.cons hclosing fun next _ => hcut next
      rw [statementsAfter_closing hfront hdepth, statementsAfter_plain hfront]
      split
      · rename_i hnil
        rw [hnil]
        exact hbehind
      · rename_i hne
        have hstatement : IsStatement front := isStatement_iff.mpr (.inl ⟨hne, hfront⟩)
        refine hbehind.cons hstatement fun next hnext => ⟨hdepth, .inl ?_⟩
        exact (Option.some.inj hnext).symm

theorem statements_eq_iff {parts : List (List Token)} :
    statements tokens = parts ↔ Divides parts (withoutEnd tokens) := by
  constructor
  · rintro rfl
    exact divides_statementsAfter (withoutEnd tokens)
  · exact Divides.statementsAfter_eq

/-! ### Where a line is cut -/

section Spans

variable {start position : Nat}

theorem outerBraces_singleton (hopening : ¬ (depth = 0 ∧ token = .leftBrace))
    (hclosing : ¬ (depth = 0 ∧ token = .rightBrace)) : outerBraces depth [token] = [] := by
  cases depth with
  | succ depth => rfl
  | zero =>
      cases token with
      | leftBrace => exact absurd ⟨rfl, rfl⟩ hopening
      | rightBrace => exact absurd ⟨rfl, rfl⟩ hclosing
      | _ => rfl

theorem slices_begun (hbegun : slice? tokens start position = some pending.reverse) :
    (if start < position then [(start, position)] else []).mapM
        (fun span => slice? tokens span.1 span.2) =
      some (if pending.isEmpty then [] else [pending.reverse]) := by
  have hlt := lt_iff_of_slice? hbegun
  cases pending with
  | nil =>
      rw [if_neg fun h => hlt.mp h rfl]
      rfl
  | cons token pending =>
      rw [if_pos (hlt.mpr (by simp)), List.mapM_cons, hbegun]
      rfl

/-- From a position on, what is between the positions where the line is cut are its statements, when
what has been begun is in front. -/
theorem slices_spansAfter (hbegun : slice? tokens start position = some pending.reverse)
    (hrest : tokens.drop position = rest) :
    (spansAfter depth start position rest).mapM (fun span => slice? tokens span.1 span.2) =
      some (statementsAfter depth pending rest) := by
  -- what has been begun stays the slice in front of the position, and is nothing behind a cut
  induction rest generalizing depth start position pending with
  | nil => exact slices_begun hbegun
  | cons token others ih =>
      have hgoes : slice? tokens start (position + 1) = some (token :: pending).reverse := by
        rw [List.reverse_cons]
        exact slice?_succ hbegun hrest
      have hcursor : (Cursor.mk tokens position).rest = token :: others := hrest
      obtain ⟨hinside, -, hnext⟩ := Cursor.rest_eq_cons hcursor
      have hanew : (spansAfter 0 (position + 1) (position + 1) others).mapM
          (fun span => slice? tokens span.1 span.2) = some (statementsAfter 0 [] others) :=
        ih (slice?_self hinside) hnext
      rw [spansAfter]
      split
      · rename_i hopening
        obtain ⟨rfl, rfl⟩ := hopening
        rw [List.mapM_cons, hgoes, hanew]
        rfl
      · split
        · rename_i hclosing
          obtain ⟨rfl, rfl⟩ := hclosing
          have halone : slice? tokens position (position + 1) = some [.rightBrace] :=
            slice?_succ (slice?_self (Nat.le_of_lt hinside)) hrest
          rw [List.mapM_append, slices_begun hbegun, List.mapM_cons, halone, hanew, statementsAfter]
          split <;> rfl
        · rename_i hopening hclosing
          rw [statementsAfter_cons (outerBraces_singleton hopening hclosing)]
          exact ih hgoes hnext

end Spans

/-- **A line is cut into statements and nothing is lost.**  Its statements are, one behind the
other, the tokens in front of its end.  None is empty; a closing brace outside of square brackets is
a statement, and an opening one ends its statement; nothing else does, and the positions between
which the statements are cut out are all in the line. -/
theorem line_is_cut_into_statements (tokens : List Token) :
    (statements tokens).flatten = withoutEnd tokens ∧
      (∀ statement ∈ statements tokens, IsStatement statement) ∧
      (statements tokens).IsChain IsCut ∧
      (spans tokens).mapM (fun span => slice? (withoutEnd tokens) span.1 span.2) =
        some (statements tokens) := by
  obtain ⟨hflatten, hstatements, hcuts⟩ := statements_eq_iff.mp (Eq.refl (statements tokens))
  have hbegin : slice? (withoutEnd tokens) 0 0 = some [] := slice?_self (Nat.zero_le _)
  exact ⟨hflatten, hstatements, hcuts, slices_spansAfter hbegin List.drop_zero⟩

/-- A line with a bracket that closes none, and one that is not closed and has a brace behind it. -/
def strayBrackets : List Token :=
  [.rightBracket, .rightBrace, .leftBracket, .rightBrace, .endOfText]

/-- The first bracket does not count, and the brace behind the second is inside of it. -/
theorem line_is_cut_into_statements_of_strayBrackets :
    [.leftBracket, .rightBrace] ∈ statements strayBrackets ∧
      IsStatement [.leftBracket, .rightBrace] ∧
      (spans strayBrackets).mapM (fun span => slice? (withoutEnd strayBrackets) span.1 span.2) =
        some [[.rightBracket], [.rightBrace], [.leftBracket, .rightBrace]] := by
  obtain ⟨-, hstatements, -, hslices⟩ := line_is_cut_into_statements strayBrackets
  have hmem : [.leftBracket, .rightBrace] ∈ statements strayBrackets := by decide
  exact ⟨hmem, hstatements _ hmem, hslices⟩

end Dbml.Source
