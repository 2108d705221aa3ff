import Dbml.Proofs.Source.Grammar

/-!
# Braces outside of square brackets

A line is cut into statements at its braces, except those that stand in square brackets.  Brackets
are only counted here: one that closes none does not count, and none has to be closed.

* `outerBraces`: the braces at which a line is cut;
* `induction_on_outerBraces`: a line is one statement, or it is cut at its first such brace, with
  `statementsAfter_opening` and `statementsAfter_closing` for what is cut off there;
* `statementsAfter_append`: behind such a brace the line begins anew;
* `outerBraces_of_header`: the brace of a table's header is one of them.
-/

namespace Dbml.Source

/-- The number of square brackets that are open behind a token, when `depth` of them are in front of
it. -/
def bracketsBehind (depth : Nat) : Token → Nat
  | .leftBracket => depth + 1
  | .rightBracket => depth - 1
  | _ => depth

/-- The number of square brackets that are open behind several tokens. -/
def openBrackets (depth : Nat) (tokens : List Token) : Nat :=
  tokens.foldl bracketsBehind depth

/-- The tokens that open and close blocks. -/
def isBrace : Token → Bool
  | .leftBrace | .rightBrace => true
  | _ => false

/-- The braces that stand in no square brackets, when `depth` of these are open in front. -/
def outerBraces (depth : Nat) : List Token → List Token
  | [] => []
  | token :: rest =>
    (if depth = 0 && isBrace token then [token] else []) ++
      outerBraces (bracketsBehind depth token) rest

variable {depth : Nat} {pending front rest tokens : List Token} {brace token : Token}

/-! ### Counting brackets -/

theorem openBrackets_append (depth : Nat) (front rest : List Token) :
    openBrackets depth (front ++ rest) = openBrackets (openBrackets depth front) rest :=
  List.foldl_append

theorem openBrackets_cons_brace (h : isBrace brace = true) (depth : Nat) (rest : List Token) :
    openBrackets depth (brace :: rest) = openBrackets depth rest := by
  cases brace <;> first | rfl | contradiction

theorem outerBraces_append (depth : Nat) (front rest : List Token) :
    outerBraces depth (front ++ rest) =
      outerBraces depth front ++ outerBraces (openBrackets depth front) rest := by
  induction front generalizing depth with
  | nil => rfl
  | cons token front ih =>
      rw [List.cons_append, outerBraces, outerBraces, ih, List.append_assoc]
      rfl

theorem outerBraces_cons_brace (h : isBrace brace = true) (rest : List Token) :
    outerBraces 0 (brace :: rest) = brace :: outerBraces 0 rest := by
  cases brace <;> first | rfl | contradiction

theorem outerBraces_of_no_brace (h : ∀ token ∈ tokens, isBrace token = false) (depth : Nat) :
    outerBraces depth tokens = [] := by
  induction tokens generalizing depth with
  | nil => rfl
  | cons token tokens ih =>
      obtain ⟨htoken, hothers⟩ := List.forall_mem_cons.mp h
      rw [outerBraces, htoken, Bool.and_false, ih hothers]
      rfl

theorem outerBraces_cut (hfront : outerBraces 0 front = []) (hdepth : openBrackets 0 front = 0)
    (h : isBrace brace = true) (rest : List Token) :
    outerBraces 0 (front ++ brace :: rest) = brace :: outerBraces 0 rest := by
  rw [outerBraces_append, hfront, hdepth, outerBraces_cons_brace h, List.nil_append]

theorem openBrackets_cut (hdepth : openBrackets 0 front = 0) (h : isBrace brace = true)
    (rest : List Token) :
    openBrackets 0 (front ++ brace :: rest) = openBrackets 0 rest := by
  rw [openBrackets_append, hdepth, openBrackets_cons_brace h]

/-- What has no brace outside of brackets ends in one only inside of them. -/
theorem getLast?_ne_brace (htokens : outerBraces 0 tokens = []) (hdepth : openBrackets 0 tokens = 0)
    (h : isBrace brace = true) : tokens.getLast? ≠ some brace := by
  intro hlast
  obtain ⟨front, rfl⟩ := List.getLast?_eq_some_iff.mp hlast
  rw [openBrackets_append, openBrackets_cons_brace h] at hdepth
  have hfront : openBrackets 0 front = 0 := hdepth
  rw [outerBraces_append, hfront, outerBraces_cons_brace h] at htokens
  simp at htokens

/-! ### Statements of a line -/

/-- A brace in brackets, like any other token, goes on with the statement that is begun. -/
theorem statementsAfter_cons (h : outerBraces depth [token] = []) (pending rest : List Token) :
    statementsAfter depth pending (token :: rest) =
      statementsAfter (bracketsBehind depth token) (token :: pending) rest := by
  cases token with
  | leftBrace | rightBrace =>
      cases depth with
      | zero => contradiction
      | succ depth => rfl
  | _ => rfl

theorem statementsAfter_front (hfront : outerBraces depth front = []) (pending rest : List Token) :
    statementsAfter depth pending (front ++ rest) =
      statementsAfter (openBrackets depth front) (front.reverse ++ pending) rest := by
  induction front generalizing depth pending with
  | nil => rfl
  | cons token front ih =>
      obtain ⟨htoken, hothers⟩ := List.append_eq_nil_iff.mp hfront
      have hgoes : statementsAfter depth pending (token :: (front ++ rest)) =
          statementsAfter (bracketsBehind depth token) (token :: pending) (front ++ rest) := by
        apply statementsAfter_cons
        rw [outerBraces, htoken]
        rfl
      rw [List.cons_append, hgoes, ih hothers, List.reverse_cons, List.append_assoc]
      rfl

/-- A line without braces outside of brackets is one statement, unless it is empty. -/
theorem statementsAfter_plain (htokens : outerBraces 0 tokens = []) :
    statementsAfter 0 [] tokens = if tokens = [] then [] else [tokens] := by
  have hwhole := statementsAfter_front htokens [] []
  rw [List.append_nil, List.append_nil] at hwhole
  rw [hwhole, statementsAfter]
  simp

theorem statementsAfter_opening (hfront : outerBraces 0 front = [])
    (hdepth : openBrackets 0 front = 0) (rest : List Token) :
    statementsAfter 0 [] (front ++ .leftBrace :: rest) =
      (front ++ [.leftBrace]) :: statementsAfter 0 [] rest := by
  rw [statementsAfter_front hfront, hdepth, statementsAfter]
  simp

/-- A closing brace outside of brackets is a statement, behind the one that it ends, if there is
one. -/
theorem statementsAfter_closing (hfront : outerBraces 0 front = [])
    (hdepth : openBrackets 0 front = 0) (rest : List Token) :
    statementsAfter 0 [] (front ++ .rightBrace :: rest) =
      statementsAfter 0 [] front ++ [.rightBrace] :: statementsAfter 0 [] rest := by
  rw [statementsAfter_front hfront, hdepth, statementsAfter, statementsAfter_plain hfront]
  by_cases hnil : front = [] <;> simp [hnil]

theorem exists_cut (depth : Nat) (tokens : List Token) :
    outerBraces depth tokens = [] ∨
      ∃ front brace rest, tokens = front ++ brace :: rest ∧ outerBraces depth front = [] ∧
        openBrackets depth front = 0 ∧ isBrace brace = true := by
  induction tokens generalizing depth with
  | nil => exact .inl rfl
  | cons token tokens ih =>
      by_cases hcut : (depth = 0 && isBrace token) = true
      · obtain ⟨hdepth, hbrace⟩ := Bool.and_eq_true_iff.mp hcut
        exact .inr ⟨[], token, tokens, rfl, rfl, of_decide_eq_true hdepth, hbrace⟩
      · rcases ih (bracketsBehind depth token) with
          hnone | ⟨front, brace, rest, hsplit, hfront, hdepth, hbrace⟩
        · left
          rw [outerBraces, if_neg hcut, hnone, List.nil_append]
        · right
          refine ⟨token :: front, brace, rest, congrArg (token :: ·) hsplit, ?_, hdepth, hbrace⟩
          rw [outerBraces, if_neg hcut, hfront, List.nil_append]

/-- To show something of every line, show it of lines without braces outside of brackets, and of
what is cut at the first such brace if it holds behind that. -/
theorem induction_on_outerBraces {P : List Token → Prop} (tokens : List Token)
    (plain : ∀ tokens, outerBraces 0 tokens = [] → P tokens)
    (opening : ∀ front rest, outerBraces 0 front = [] → openBrackets 0 front = 0 → P rest →
      P (front ++ .leftBrace :: rest))
    (closing : ∀ front rest, outerBraces 0 front = [] → openBrackets 0 front = 0 → P rest →
      P (front ++ .rightBrace :: rest)) : P tokens := by
  rcases exists_cut 0 tokens with hplain | ⟨front, brace, rest, htokens, hfront, hdepth, hbrace⟩
  · exact plain tokens hplain
  · have hrest : P rest := induction_on_outerBraces rest plain opening closing
    rw [htokens]
    cases brace with
    | leftBrace => exact opening front rest hfront hdepth hrest
    | rightBrace => exact closing front rest hfront hdepth hrest
    | _ => contradiction
termination_by tokens.length
decreasing_by
  rw [htokens, List.length_append, List.length_cons]
  omega

/-- Behind a brace outside of brackets the line begins anew. -/
theorem statementsAfter_append (hdepth : openBrackets 0 tokens = 0) (hbrace : isBrace brace = true)
    (rest : List Token) :
    statementsAfter 0 [] (tokens ++ brace :: rest) =
      statementsAfter 0 [] (tokens ++ [brace]) ++ statementsAfter 0 [] rest := by
  induction tokens using induction_on_outerBraces with
  | plain front hfront =>
      cases brace with
      | leftBrace =>
          rw [statementsAfter_opening hfront hdepth, statementsAfter_opening hfront hdepth]
          rfl
      | rightBrace =>
          rw [statementsAfter_closing hfront hdepth, statementsAfter_closing hfront hdepth,
            List.append_assoc]
          rfl
      | _ => contradiction
  | opening front others hfront hopen ih =>
      rw [openBrackets_cut hopen rfl] at hdepth
      rw [List.append_assoc, List.append_assoc, List.cons_append, List.cons_append,
        statementsAfter_opening hfront hopen, statementsAfter_opening hfront hopen, ih hdepth,
        List.cons_append]
  | closing front others hfront hopen ih =>
      rw [openBrackets_cut hopen rfl] at hdepth
      rw [List.append_assoc, List.append_assoc, List.cons_append, List.cons_append,
        statementsAfter_closing hfront hopen, statementsAfter_closing hfront hopen, ih hdepth,
        List.append_assoc, List.cons_append]

/-! ### Headers -/

theorem openBrackets_of_no_bracket
    (h : ∀ token ∈ tokens, token ≠ .leftBracket ∧ token ≠ .rightBracket) :
    openBrackets depth tokens = depth := by
  induction tokens with
  | nil => rfl
  | cons token tokens ih =>
      obtain ⟨⟨hopening, hclosing⟩, hothers⟩ := List.forall_mem_cons.mp h
      have htoken : bracketsBehind depth token = depth := by
        cases token <;> first | contradiction | rfl
      rw [openBrackets, List.foldl_cons, htoken]
      exact ih hothers

/-- Behind `depth` open brackets, balanced tokens close these and none of the others in front. -/
theorem openBrackets_balanced (h : Balanced .leftBracket .rightBracket depth tokens) (outer : Nat) :
    openBrackets (depth + outer) tokens = outer := by
  induction tokens generalizing depth with
  | nil =>
      obtain rfl := balanced_nil.mp h
      exact Nat.zero_add outer
  | cons token tokens ih =>
      obtain ⟨behind, hbehind, hothers⟩ := balanced_cons.mp h
      have htoken : bracketsBehind (depth + outer) token = behind + outer := by
        cases token <;> simp [bracketsBehind] at hbehind ⊢ <;> omega
      rw [openBrackets, List.foldl_cons, htoken]
      exact ih hothers

theorem openBrackets_group (h : IsGroup .leftBracket .rightBracket tokens) :
    openBrackets 0 tokens = 0 := by
  obtain ⟨inner, hinner, rfl⟩ := h
  have hinside : openBrackets 1 inner = 1 := openBrackets_balanced hinner 1
  show openBrackets 1 (inner ++ [.rightBracket]) = 0
  rw [openBrackets_append, hinside]
  rfl

theorem not_bracket_of_name (h : token.name?.isSome = true) :
    token ≠ .leftBracket ∧ token ≠ .rightBracket := by
  constructor <;> (rintro rfl; contradiction)

theorem not_bracket_of_isKeyword {keyword : String} (h : token.isKeyword keyword = true) :
    token ≠ .leftBracket ∧ token ≠ .rightBracket := by
  constructor <;> (rintro rfl; contradiction)

theorem openBrackets_of_takeAlias? {aliasName : Option String}
    (h : takeAlias? tokens = some (aliasName, rest)) :
      openBrackets 0 tokens = openBrackets 0 rest := by
  unfold takeAlias? at h
  split at h
  · rename_i keyword others
    split at h
    · rename_i hkeyword
      split at h
      · rename_i token behind
        obtain ⟨name, hname, h⟩ := Option.map_eq_some_iff.mp h
        cases h
        have hwords : openBrackets 0 [keyword, token] = 0 := by
          apply openBrackets_of_no_bracket
          intro other hother
          simp only [List.mem_cons, List.not_mem_nil, or_false] at hother
          rcases hother with rfl | rfl
          · exact not_bracket_of_isKeyword hkeyword
          · exact not_bracket_of_name (Option.isSome_of_mem hname)
        show openBrackets 0 ([keyword, token] ++ rest) = openBrackets 0 rest
        rw [openBrackets_append, hwords]
      · contradiction
    · cases h
      rfl
  · cases h
    rfl

theorem openBrackets_of_qualifiedName? {names : List String}
    (h : qualifiedName? tokens = some (names, rest)) :
      openBrackets 0 tokens = openBrackets 0 rest := by
  obtain ⟨qualifiers, last, hqualifiers, hlast, rfl, -, -⟩ := exists_names_of_qualifiedName? h
  have hnames : openBrackets 0 (qualifiers.flatMap (fun token => [token, .dot]) ++ [last]) = 0 := by
    apply openBrackets_of_no_bracket
    intro token htoken
    simp only [List.mem_append, List.mem_flatMap, List.mem_cons, List.not_mem_nil, or_false]
      at htoken
    rcases htoken with ⟨qualifier, hmem, rfl | rfl⟩ | rfl
    · exact not_bracket_of_name (hqualifiers token hmem)
    · decide
    · exact not_bracket_of_name hlast
  rw [List.append_cons, openBrackets_append, hnames]

theorem openBrackets_of_skipSettings? (h : skipSettings? tokens = some rest) :
    openBrackets 0 tokens = openBrackets 0 rest := by
  unfold skipSettings? at h
  split at h
  · obtain ⟨⟨inner, behind⟩, htaken, rfl⟩ := Option.map_eq_some_iff.mp h
    obtain ⟨group, hgroup, htokens⟩ := exists_group_of_takeGroup? (by decide) htaken
    rw [htokens, openBrackets_append, openBrackets_group hgroup]
  · cases h
    rfl

/-- The brace of a table's header stands in no brackets. -/
theorem outerBraces_of_header {header : TableHeader}
    (h : TableHeader.ofTokens? tokens = some header) :
    outerBraces 0 tokens ≠ [] := by
  have hdepth : openBrackets 0 tokens = 0 := by
    unfold TableHeader.ofTokens? at h
    split at h
    · contradiction
    · rename_i keyword others
      split at h
      · rename_i hkeyword
        obtain ⟨⟨names, behindName⟩, hnames, h⟩ := Option.bind_eq_some_iff.mp h
        obtain ⟨⟨aliasName, behindAlias⟩, halias, h⟩ := Option.bind_eq_some_iff.mp h
        obtain ⟨rest, hrest, h⟩ := Option.bind_eq_some_iff.mp h
        split at h
        · rename_i hbrace
          have hword : openBrackets 0 [keyword] = 0 := by
            apply openBrackets_of_no_bracket
            intro token htoken
            rw [List.mem_singleton.mp htoken]
            exact not_bracket_of_isKeyword hkeyword
          calc
            openBrackets 0 (keyword :: others) = openBrackets (openBrackets 0 [keyword]) others :=
              openBrackets_append 0 [keyword] others
            _ = openBrackets 0 others := by rw [hword]
            _ = openBrackets 0 behindName := openBrackets_of_qualifiedName? hnames
            _ = openBrackets 0 behindAlias := openBrackets_of_takeAlias? halias
            _ = openBrackets 0 rest := openBrackets_of_skipSettings? hrest
            _ = 0 := by rw [hbrace]; rfl
        · contradiction
      · contradiction
  intro hnone
  exact getLast?_ne_brace hnone hdepth rfl (getLast?_of_header h)

end Dbml.Source
