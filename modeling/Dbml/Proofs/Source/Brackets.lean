import Dbml.Source.Grouping

/-!
# Balanced brackets

A group ends at the bracket that closes it.  Which one this is can be said without reading the
tokens one by one: those in front of it are balanced.

* `balanced_cons`: how the number of open brackets changes with a token;
* `untilClosed?_eq_some_iff`: what is taken up to a closing bracket is what is balanced in front of
  it;
* `takeGroup?_eq_some_iff`: so a group is its brackets around balanced tokens.
-/

namespace Dbml.Source

/-- Behind `depth` opening brackets, the tokens close all brackets that are open: none is closed
before it is opened, and none is left open. -/
structure Balanced (opening closing : Token) (depth : Nat) (tokens : List Token) : Prop where
  opened : ∀ before, before <+: tokens → before.count closing ≤ before.count opening + depth
  closed : tokens.count closing = tokens.count opening + depth

variable {opening closing token : Token} {depth : Nat} {tokens inner rest : List Token}

theorem balanced_nil : Balanced opening closing depth [] ↔ depth = 0 := by
  constructor
  · intro h
    simpa using h.closed.symm
  · rintro rfl
    refine ⟨fun before hbefore => ?_, rfl⟩
    rw [List.prefix_nil.mp hbefore]
    exact Nat.le_refl _

/-- The brackets that are open behind a token are those before it, with itself if it opens one, and
without the one that it closes. -/
theorem balanced_cons :
    Balanced opening closing depth (token :: tokens) ↔
      ∃ behind, depth + [token].count opening = behind + [token].count closing ∧
        Balanced opening closing behind tokens := by
  have hcount : ∀ bracket (others : List Token),
      (token :: others).count bracket = [token].count bracket + others.count bracket :=
    fun bracket others => @List.count_append _ _ bracket [token] others
  constructor
  · rintro ⟨hopened, hclosed⟩
    have hfirst := hopened [token] (List.cons_prefix_cons.mpr ⟨rfl, List.nil_prefix⟩)
    refine ⟨depth + [token].count opening - [token].count closing, by omega,
      fun before hbefore => ?_, ?_⟩
    · have hlonger := hopened (token :: before) (List.cons_prefix_cons.mpr ⟨rfl, hbefore⟩)
      rw [hcount closing before, hcount opening before] at hlonger
      omega
    · rw [hcount closing tokens, hcount opening tokens] at hclosed
      omega
  · rintro ⟨behind, hbehind, hopened, hclosed⟩
    refine ⟨fun before hbefore => ?_, ?_⟩
    · rcases List.prefix_cons_iff.mp hbefore with rfl | ⟨others, rfl, hothers⟩
      · exact Nat.zero_le _
      · have hshorter := hopened others hothers
        rw [hcount closing others, hcount opening others]
        omega
    · rw [hcount closing tokens, hcount opening tokens]
      omega

theorem balanced_cons_of_ne (hopening : token ≠ opening) (hclosing : token ≠ closing) :
    Balanced opening closing depth (token :: tokens) ↔ Balanced opening closing depth tokens := by
  rw [balanced_cons]
  simp [hopening, hclosing]

theorem balanced_cons_opening (hne : opening ≠ closing) :
    Balanced opening closing depth (opening :: tokens) ↔
      Balanced opening closing (depth + 1) tokens := by
  rw [balanced_cons]
  simp [hne]

theorem balanced_cons_closing (hne : opening ≠ closing) :
    Balanced opening closing depth (closing :: tokens) ↔
      ∃ behind, depth = behind + 1 ∧ Balanced opening closing behind tokens := by
  rw [balanced_cons]
  simp [hne.symm]

theorem balanced_of_not_mem (hopening : opening ∉ tokens) (hclosing : closing ∉ tokens) :
    Balanced opening closing 0 tokens := by
  constructor
  · intro before hbefore
    rw [List.count_eq_zero.mpr fun hmem => hclosing (hbefore.subset hmem)]
    exact Nat.zero_le _
  · rw [List.count_eq_zero.mpr hclosing, List.count_eq_zero.mpr hopening]

theorem Balanced.append {front : List Token} (hfront : Balanced opening closing 0 front)
    (htokens : Balanced opening closing depth tokens) :
      Balanced opening closing depth (front ++ tokens) := by
  obtain ⟨hopened, hclosed⟩ := hfront
  constructor
  · intro before hbefore
    rcases List.prefix_or_prefix_of_prefix hbefore (List.prefix_append front tokens) with
      hinside | ⟨others, rfl⟩
    · have hcount := hopened before hinside
      omega
    · have hcount := htokens.opened others ((List.prefix_append_right_inj front).mp hbefore)
      rw [List.count_append, List.count_append]
      omega
  · have hcount := htokens.closed
    rw [List.count_append, List.count_append]
    omega

theorem map_prepended_eq_some_iff {found : Option (List Token × List Token)} :
    found.map (prepended token) = some (inner, rest) ↔
      ∃ others, inner = token :: others ∧ found = some (others, rest) := by
  cases found with
  | none => simp
  | some pair =>
      obtain ⟨others, more⟩ := pair
      simp only [Option.map_some, prepended, Option.some.injEq, Prod.mk.injEq]
      constructor
      · rintro ⟨rfl, rfl⟩
        exact ⟨others, rfl, rfl, rfl⟩
      · rintro ⟨_, rfl, rfl, rfl⟩
        exact ⟨rfl, rfl⟩

/-- A token that does not end the group stands in front of what is taken behind it. -/
theorem taken_cons_iff {others : List Token} {behind : Nat} (hfirst : depth = 0 → token ≠ closing)
    (hbalanced : ∀ more,
      Balanced opening closing depth (token :: more) ↔ Balanced opening closing behind more)
    (hothers : ∀ inner, untilClosed? opening closing behind others = some (inner, rest) ↔
      others = inner ++ closing :: rest ∧ Balanced opening closing behind inner) :
    (untilClosed? opening closing behind others).map (prepended token) = some (inner, rest) ↔
      token :: others = inner ++ closing :: rest ∧ Balanced opening closing depth inner := by
  rw [map_prepended_eq_some_iff]
  constructor
  · rintro ⟨more, rfl, htaken⟩
    obtain ⟨htokens, hmore⟩ := (hothers more).mp htaken
    exact ⟨congrArg (token :: ·) htokens, (hbalanced more).mpr hmore⟩
  · rintro ⟨htokens, hinner⟩
    cases inner with
    | nil => exact absurd (List.cons.inj htokens).1 (hfirst (balanced_nil.mp hinner))
    | cons first more =>
        obtain ⟨rfl, hmore⟩ := List.cons.inj htokens
        exact ⟨more, rfl, (hothers more).mpr ⟨hmore, (hbalanced more).mp hinner⟩⟩

/-- The tokens up to a closing bracket are those in front of it that are balanced. -/
theorem untilClosed?_eq_some_iff (hne : opening ≠ closing) :
    untilClosed? opening closing depth tokens = some (inner, rest) ↔
      tokens = inner ++ closing :: rest ∧ Balanced opening closing depth inner := by
  induction tokens generalizing depth inner with
  | nil => simp [untilClosed?]
  | cons token others ih =>
      unfold untilClosed?
      split
      · rename_i hopening
        subst hopening
        exact taken_cons_iff (fun _ => hne) (fun _ => balanced_cons_opening hne) fun _ => ih
      · rename_i hopening
        split
        · rename_i hclosing
          subst hclosing
          cases depth with
          | zero =>
              constructor
              · rintro ⟨⟩
                exact ⟨rfl, balanced_nil.mpr rfl⟩
              · rintro ⟨htokens, hinner⟩
                cases inner with
                | nil => exact congrArg (fun more => some ([], more)) (List.cons.inj htokens).2
                | cons first more =>
                    obtain ⟨rfl, -⟩ := List.cons.inj htokens
                    obtain ⟨behind, hbehind, -⟩ := (balanced_cons_closing hne).mp hinner
                    contradiction
          | succ depth =>
              refine taken_cons_iff (fun hzero => absurd hzero (Nat.succ_ne_zero depth))
                (fun more => ?_) fun _ => ih
              rw [balanced_cons_closing hne]
              constructor
              · rintro ⟨behind, hbehind, hmore⟩
                cases hbehind
                exact hmore
              · intro hmore
                exact ⟨depth, rfl, hmore⟩
        · rename_i hclosing
          exact taken_cons_iff (fun _ => hclosing)
            (fun _ => balanced_cons_of_ne hopening hclosing) fun _ => ih

/-- A group is its two brackets with balanced tokens between them. -/
theorem takeGroup?_eq_some_iff (hne : opening ≠ closing) :
    takeGroup? opening closing tokens = some (inner, rest) ↔
      tokens = opening :: (inner ++ closing :: rest) ∧ Balanced opening closing 0 inner := by
  cases tokens with
  | nil => simp [takeGroup?]
  | cons token others =>
      rw [takeGroup?]
      split
      · rename_i htoken
        rw [untilClosed?_eq_some_iff hne, htoken, List.cons.injEq, eq_self_iff_true, true_and]
      · rename_i htoken
        simp [htoken]

end Dbml.Source
