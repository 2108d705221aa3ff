import Dbml.Source.Grouping

/-!
# Lines without braces

Braces are what cuts a line into statements, so a line without them stays in one piece: it is one
statement (`statements_of_no_brace`), and has none with braces (`no_brace_of_mem_statements`).
-/

namespace Dbml.Source

/-- Without braces a line is one statement. -/
theorem statementsAfter_of_no_brace {tokens : List Token} (hopen : Token.leftBrace ∉ tokens)
    (hclose : Token.rightBrace ∉ tokens) (depth : Nat) (pending : List Token) :
    statementsAfter depth pending tokens = statementsAfter 0 (tokens.reverse ++ pending) [] := by
  induction tokens generalizing depth pending with
  | nil => rfl
  | cons token rest ih =>
      simp only [List.mem_cons, not_or] at hopen hclose
      have hrest := fun depth => ih hopen.2 hclose.2 depth (token :: pending)
      rw [List.reverse_cons, List.append_assoc, List.singleton_append, ← hrest]
      cases token with
      | leftBrace => exact absurd rfl hopen.1
      | rightBrace => exact absurd rfl hclose.1
      -- brackets change the depth, on which nothing depends without braces
      | leftBracket => exact hrest (depth + 1) |>.trans (hrest depth).symm
      | rightBracket => exact hrest (depth - 1) |>.trans (hrest depth).symm
      | _ => rfl

theorem withoutEnd_append (tokens : List Token) : withoutEnd (tokens ++ [.endOfText]) = tokens := by
  simp [withoutEnd]

theorem statements_of_no_brace {tokens : List Token} (hne : tokens ≠ [])
    (hopen : Token.leftBrace ∉ tokens) (hclose : Token.rightBrace ∉ tokens) :
    statements (tokens ++ [.endOfText]) = [tokens] := by
  rw [statements, withoutEnd_append, statementsAfter_of_no_brace hopen hclose, List.append_nil,
    statementsAfter]
  simp [hne]

/-- The statements of a line without braces have none. -/
theorem no_brace_of_mem_statements {tokens statement : List Token}
    (hopen : Token.leftBrace ∉ tokens)
    (hclose : Token.rightBrace ∉ tokens) (hstatement : statement ∈ statements tokens) :
    Token.leftBrace ∉ statement ∧ Token.rightBrace ∉ statement := by
  have hsub : withoutEnd tokens ⊆ tokens := by
    unfold withoutEnd
    split
    · exact List.dropLast_subset tokens
    · exact List.Subset.refl tokens
  have hone : statement = withoutEnd tokens := by
    rw [statements, statementsAfter_of_no_brace (fun h => hopen (hsub h)) (fun h =>
      hclose (hsub h)), List.append_nil, statementsAfter] at hstatement
    split at hstatement
    · contradiction
    · simpa using hstatement
  subst hone
  exact ⟨fun h => hopen (hsub h), fun h => hclose (hsub h)⟩

end Dbml.Source
