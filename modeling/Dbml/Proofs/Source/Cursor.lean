import Mathlib.Data.Nat.PSub
import Dbml.Proofs.Source.Grammar

/-!
# Groups by their positions

Tokens can also be read where they are, by a cursor that moves along their list and a count of the
brackets that are open.  Then a group is what stands between two positions.  Counting may fail,
because a bracket that closes nothing takes the count below zero, and so may cutting out what is
between two positions, because they are not both in the list, or not in this order.  Here it is
shown that neither happens, and that a group is found just where one is.

* `slice?`: what stands between two positions of a list, if it has these in their order;
* `Cursor.group?`: the group at a cursor, by counting;
* `Cursor.closeGroup?_eq`: counting up to the closing bracket comes to the same as taking the tokens
  off the front of their list one by one, which is `untilClosed?`;
* `Cursor.group_matched`: what is found is what stands between two brackets and is balanced.
-/

namespace Dbml.Source

/-! ### Parts of a list -/

/-- The tokens from one position up to another, if the list has both and they are in this order. -/
def slice? (tokens : List Token) (start stop : Nat) : Option (List Token) :=
  if start ≤ stop ∧ stop ≤ tokens.length then
    some ((tokens.drop start).take (stop - start))
  else none

section Slices

variable {tokens part rest : List Token} {token : Token} {start stop position : Nat}

/-- A slice is what has as many tokens in front of it as its first position says, and ends at its
last one. -/
theorem slice?_eq_some_iff :
    slice? tokens start stop = some part ↔
      ∃ front behind, tokens = front ++ (part ++ behind) ∧ front.length = start ∧
        start + part.length = stop := by
  constructor
  · intro h
    rw [slice?, Option.ite_none_right_eq_some, Option.some.injEq] at h
    obtain ⟨⟨hstart, hstop⟩, rfl⟩ := h
    refine ⟨tokens.take start, (tokens.drop start).drop (stop - start), ?_, ?_, ?_⟩
    · rw [List.take_append_drop, List.take_append_drop]
    · exact List.length_take_of_le (Nat.le_trans hstart hstop)
    · rw [List.length_take, List.length_drop]
      omega
  · rintro ⟨front, behind, rfl, rfl, rfl⟩
    have hrange : front.length ≤ front.length + part.length ∧
        front.length + part.length ≤ (front ++ (part ++ behind)).length := by
      rw [List.length_append, List.length_append]
      omega
    rw [slice?, if_pos hrange, List.drop_left, Nat.add_sub_cancel_left, List.take_left]

theorem slice?_self (h : position ≤ tokens.length) : slice? tokens position position = some [] :=
  slice?_eq_some_iff.mpr
    ⟨tokens.take position, tokens.drop position, (List.take_append_drop position tokens).symm,
      List.length_take_of_le h, rfl⟩

theorem slice?_succ (h : slice? tokens start position = some part)
    (hrest : tokens.drop position = token :: rest) :
    slice? tokens start (position + 1) = some (part ++ [token]) := by
  obtain ⟨front, behind, rfl, rfl, rfl⟩ := slice?_eq_some_iff.mp h
  have hbehind : behind = token :: rest := by
    rw [← hrest, ← List.append_assoc, ← List.length_append, List.drop_left]
  refine slice?_eq_some_iff.mpr ⟨front, rest, ?_, rfl, ?_⟩
  · rw [hbehind, List.append_assoc, List.singleton_append]
  · rw [List.length_append, List.length_singleton, Nat.add_assoc]

theorem lt_iff_of_slice? (h : slice? tokens start stop = some part) : start < stop ↔ part ≠ [] := by
  obtain ⟨front, behind, -, -, rfl⟩ := slice?_eq_some_iff.mp h
  rw [← List.length_pos_iff]
  omega

end Slices

/-! ### Taking groups off the front -/

section Taking

variable {opening closing : Token} {tokens inner : List Token}

theorem exists_takeGroup?_iff (hne : opening ≠ closing) :
    (∃ rest, takeGroup? opening closing tokens = some (inner, rest)) ↔
      opening :: (inner ++ [closing]) <+: tokens ∧ Balanced opening closing 0 inner := by
  constructor
  · rintro ⟨rest, htaken⟩
    obtain ⟨rfl, hinner⟩ := (takeGroup?_eq_some_iff hne).mp htaken
    exact ⟨⟨rest, by simp⟩, hinner⟩
  · rintro ⟨⟨rest, rfl⟩, hinner⟩
    exact ⟨rest, (takeGroup?_eq_some_iff hne).mpr ⟨by simp, hinner⟩⟩

theorem takeGroup?_of_unclosed (hne : opening ≠ closing) (h : IsUnclosed opening closing tokens) :
    takeGroup? opening closing tokens = none := by
  have hunclosed := h
  obtain ⟨others, rfl, -⟩ := h
  exact (takeGroup?_eq_none_iff hne).mpr hunclosed

theorem takeGroup?_of_head?_ne (h : tokens.head? ≠ some opening) :
    takeGroup? opening closing tokens = none := by
  cases tokens with
  | nil => rfl
  | cons token others => exact if_neg fun htoken => h (congrArg some htoken)

end Taking

/-! ### Cursors -/

/-- A position in a list of tokens, or behind the end of the list. -/
structure Cursor where
  tokens : List Token
  position : Nat
  deriving DecidableEq, Repr

namespace Cursor

/-- The tokens that have not been read. -/
def rest (cursor : Cursor) : List Token :=
  cursor.tokens.drop cursor.position

/-- The token at a cursor.  Behind the last one the text is at its end. -/
def peek (cursor : Cursor) : Token :=
  cursor.tokens[cursor.position]?.getD .endOfText

/-- The cursor behind the token. -/
def next (cursor : Cursor) : Cursor :=
  { cursor with position := cursor.position + 1 }

/-- The tokens from `start` up to the bracket that closes the last of the `depth` groups that are
open at the cursor, if there is one, and the cursor behind what has been read; none where a number
would fall below zero. -/
def closeGroup? (opening closing : Token) (start depth : Nat) (cursor : Cursor) :
    Option (Option (List Token) × Cursor) :=
  if cursor.position < cursor.tokens.length then
    if cursor.peek = opening then closeGroup? opening closing start (depth + 1) cursor.next
    else if cursor.peek = closing then do
      let left ← depth.ppred
      if left = 0 then
        let stop ← cursor.next.position.ppred
        some (slice? cursor.tokens start stop, cursor.next)
      else closeGroup? opening closing start left cursor.next
    else closeGroup? opening closing start depth cursor.next
  else some (none, cursor)
termination_by cursor.tokens.length - cursor.position
decreasing_by all_goals (simp only [next]; omega)

/-- The group at a cursor, if one begins there and is closed, and the cursor behind what has been
read; none where a number would fall below zero. -/
def group? (opening closing : Token) (cursor : Cursor) : Option (Option (List Token) × Cursor) :=
  if cursor.peek = opening then closeGroup? opening closing cursor.next.position 1 cursor.next
  else some (none, cursor)

variable {opening closing token : Token} {cursor : Cursor} {others inner rest : List Token}

/-! ### What is left behind a cursor -/

theorem rest_eq_nil_iff : cursor.rest = [] ↔ cursor.tokens.length ≤ cursor.position :=
  List.drop_eq_nil_iff

theorem rest_eq_cons (h : cursor.rest = token :: others) :
    cursor.position < cursor.tokens.length ∧ cursor.peek = token ∧ cursor.next.rest = others := by
  have hinside : cursor.position < cursor.tokens.length := by
    by_contra hbehind
    rw [rest_eq_nil_iff.mpr (Nat.le_of_not_lt hbehind)] at h
    contradiction
  rw [rest, List.drop_eq_getElem_cons hinside] at h
  obtain ⟨htoken, hothers⟩ := List.cons.inj h
  refine ⟨hinside, ?_, hothers⟩
  rw [peek, List.getElem?_eq_getElem hinside]
  exact htoken

theorem peek_of_rest_nil (h : cursor.rest = []) : cursor.peek = .endOfText := by
  rw [peek, List.getElem?_eq_none (rest_eq_nil_iff.mp h)]
  rfl

theorem rest_of_append {front : List Token} (h : cursor.rest = front ++ rest) :
    { cursor with position := cursor.position + front.length : Cursor }.rest = rest := by
  calc
    cursor.tokens.drop (cursor.position + front.length) = cursor.rest.drop front.length := by
      rw [Cursor.rest, List.drop_drop]
    _ = rest := by rw [h, List.drop_left]

theorem rest_of_group (h : cursor.rest = opening :: (inner ++ closing :: rest)) :
    { cursor with position := cursor.position + inner.length + 2 : Cursor }.rest = rest := by
  have hlength : inner.length + 2 = (opening :: (inner ++ [closing])).length := by simp
  rw [Nat.add_assoc, hlength]
  exact rest_of_append (by simp [h])

theorem slice?_of_rest (hposition : cursor.position ≤ cursor.tokens.length)
    (h : cursor.rest = inner ++ rest) :
    slice? cursor.tokens cursor.position (cursor.position + inner.length) = some inner := by
  refine slice?_eq_some_iff.mpr ⟨cursor.tokens.take cursor.position, rest, ?_, ?_, rfl⟩
  · rw [← h, Cursor.rest, List.take_append_drop]
  · exact List.length_take_of_le hposition

/-! ### Counting -/

/-- What a group that begins at `start` comes to when some tokens are taken at the cursor, up to its
closing bracket. -/
def closed (start : Nat) (cursor : Cursor) :
    Option (List Token × List Token) → Option (List Token) × Cursor
  | some (inner, _) =>
    (slice? cursor.tokens start (cursor.position + inner.length),
      { cursor with position := cursor.position + inner.length + 1 })
  | none => (none, { cursor with position := max cursor.position cursor.tokens.length })

/-- A token in front of those that are taken may have been read before. -/
theorem closed_next (h : cursor.position < cursor.tokens.length) (start : Nat)
    (taken : Option (List Token × List Token)) :
    cursor.next.closed start taken = cursor.closed start (taken.map (prepended token)) := by
  cases taken with
  | none =>
      have hend : max (cursor.position + 1) cursor.tokens.length =
          max cursor.position cursor.tokens.length := by
        omega
      simp only [Option.map_none, closed, next, hend]
  | some pair =>
      obtain ⟨inner, rest⟩ := pair
      have hlength : cursor.position + 1 + inner.length =
          cursor.position + (token :: inner).length := by
        rw [List.length_cons]
        omega
      simp only [Option.map_some, prepended, closed, next, hlength]

/-- Counting brackets never fails, and it stops at the bracket up to which tokens are taken one by
one. -/
theorem closeGroup?_eq (start depth : Nat) (cursor : Cursor) :
    cursor.closeGroup? opening closing start (depth + 1) =
      some (cursor.closed start (untilClosed? opening closing depth cursor.rest)) := by
  generalize hrest : cursor.rest = tokens
  induction tokens generalizing cursor depth with
  | nil =>
      have hend : cursor.tokens.length ≤ cursor.position := rest_eq_nil_iff.mp hrest
      rw [closeGroup?, if_neg (Nat.not_lt.mpr hend), untilClosed?, closed, Nat.max_eq_left hend]
  | cons token others ih =>
      obtain ⟨hinside, hpeek, hothers⟩ := rest_eq_cons hrest
      rw [closeGroup?, if_pos hinside, hpeek]
      unfold untilClosed?
      split
      · rw [ih (depth + 1) cursor.next hothers, closed_next hinside]
      · split
        -- the count is one more than the groups open inside, so that it falls to zero where the
        -- group ends
        · cases depth with
          | zero => rfl
          | succ depth =>
              rw [← closed_next hinside, ← ih depth cursor.next hothers]
              rfl
        · rw [ih depth cursor.next hothers, closed_next hinside]

/-! ### Groups -/

theorem group?_of_taken (hne : opening ≠ closing)
    (h : takeGroup? opening closing cursor.rest = some (inner, rest)) :
    cursor.group? opening closing =
      some (some inner, { cursor with position := cursor.position + inner.length + 2 }) := by
  obtain ⟨htokens, hinner⟩ := (takeGroup?_eq_some_iff hne).mp h
  obtain ⟨hinside, hpeek, hnext⟩ := rest_eq_cons htokens
  have htaken : untilClosed? opening closing 0 cursor.next.rest = some (inner, rest) :=
    (untilClosed?_eq_some_iff hne).mpr ⟨hnext, hinner⟩
  have hslice : slice? cursor.next.tokens cursor.next.position
    (cursor.next.position + inner.length) = some inner :=
    slice?_of_rest hinside hnext
  have hbehind : cursor.next.position + inner.length + 1 = cursor.position + inner.length + 2 := by
    show cursor.position + 1 + inner.length + 1 = cursor.position + inner.length + 2
    omega
  rw [group?, if_pos hpeek, closeGroup?_eq, htaken, closed, hslice, hbehind]
  rfl

theorem group?_of_unclosed (hne : opening ≠ closing) (h : IsUnclosed opening closing cursor.rest) :
    cursor.group? opening closing =
      some (none, { cursor with position := cursor.tokens.length }) := by
  have hnone := takeGroup?_of_unclosed hne h
  obtain ⟨others, hrest, -⟩ := h
  obtain ⟨hinside, hpeek, hnext⟩ := rest_eq_cons hrest
  rw [hrest, takeGroup?, if_pos rfl] at hnone
  have hend : max cursor.next.position cursor.next.tokens.length = cursor.tokens.length :=
    Nat.max_eq_right hinside
  rw [group?, if_pos hpeek, closeGroup?_eq, hnext, hnone, closed, hend]
  rfl

theorem group?_of_other (hend : opening ≠ .endOfText) (h : cursor.rest.head? ≠ some opening) :
    cursor.group? opening closing = some (none, cursor) := by
  have hpeek : cursor.peek ≠ opening := by
    cases hrest : cursor.rest with
    | nil => rwa [peek_of_rest_nil hrest, ne_comm]
    | cons token others =>
        rw [(rest_eq_cons hrest).2.1]
        rw [hrest] at h
        exact fun htoken => h (congrArg some htoken)
  rw [group?, if_neg hpeek]

/-- What is found is what can be taken off the front, and where the cursor is left depends on
whether there is something, and on whether a group begins at all. -/
theorem exists_group?_eq (hne : opening ≠ closing) (hend : opening ≠ .endOfText) (cursor : Cursor) :
    ∃ behind, cursor.group? opening closing =
        some ((takeGroup? opening closing cursor.rest).map Prod.fst, behind) ∧
      (∀ inner rest, takeGroup? opening closing cursor.rest = some (inner, rest) →
        behind = { cursor with position := cursor.position + inner.length + 2 } ∧
          behind.rest = rest) ∧
      (IsUnclosed opening closing cursor.rest → behind.rest = []) ∧
      (cursor.rest.head? ≠ some opening → behind = cursor) := by
  by_cases hhead : cursor.rest.head? = some opening
  · obtain ⟨others, hrest⟩ := List.head?_eq_some_iff.mp hhead
    cases htaken : takeGroup? opening closing cursor.rest with
    | some taken =>
        obtain ⟨inner, rest⟩ := taken
        obtain ⟨htokens, -⟩ := (takeGroup?_eq_some_iff hne).mp htaken
        refine ⟨_, group?_of_taken hne htaken, ?_, fun hunclosed => ?_, fun h => absurd hhead h⟩
        · rintro _ _ ⟨⟩
          exact ⟨rfl, rest_of_group htokens⟩
        · rw [takeGroup?_of_unclosed hne hunclosed] at htaken
          contradiction
    | none =>
        have hunclosed : IsUnclosed opening closing cursor.rest := by
          rw [hrest] at htaken ⊢
          exact (takeGroup?_eq_none_iff hne).mp htaken
        refine ⟨_, group?_of_unclosed hne hunclosed, by simp, fun _ => ?_, fun h => absurd hhead h⟩
        exact rest_eq_nil_iff.mpr (Nat.le_refl _)
  · rw [takeGroup?_of_head?_ne hhead]
    exact ⟨cursor, group?_of_other hend hhead, by simp, fun h => absurd h.head? hhead, fun _ => rfl⟩

/-- **Groups are matched exactly.**  Wherever a cursor is, counting never falls below zero.  A group
is found just if one begins there, which is two brackets with balanced tokens between them; there is
only one, and the cursor is left behind its closing bracket.  One that is not closed is read to the
end and not found, and where none begins nothing is read.  What is found is what is taken off the
front of the tokens that have not been read. -/
theorem group_matched (hne : opening ≠ closing) (hend : opening ≠ .endOfText) (cursor : Cursor) :
    ∃ found behind, cursor.group? opening closing = some (found, behind) ∧
      (∀ inner, found = some inner ↔
        opening :: (inner ++ [closing]) <+: cursor.rest ∧ Balanced opening closing 0 inner) ∧
      (∀ inner, found = some inner →
        behind = { cursor with position := cursor.position + inner.length + 2 }) ∧
      (∀ inner other, opening :: (inner ++ [closing]) <+: cursor.rest ∧
        Balanced opening closing 0 inner →
        opening :: (other ++ [closing]) <+: cursor.rest ∧ Balanced opening closing 0 other →
          inner = other) ∧
      (IsUnclosed opening closing cursor.rest → found = none ∧ behind.rest = []) ∧
      (cursor.rest.head? ≠ some opening → found = none ∧ behind = cursor) ∧
      takeGroup? opening closing cursor.rest = found.map (·, behind.rest) := by
  obtain ⟨behind, hgroup, htaken, hunclosed, hother⟩ := exists_group?_eq hne hend cursor
  have hfound : ∀ inner, (takeGroup? opening closing cursor.rest).map Prod.fst = some inner ↔
      opening :: (inner ++ [closing]) <+: cursor.rest ∧ Balanced opening closing 0 inner := by
    intro inner
    rw [← exists_takeGroup?_iff hne]
    simp
  refine ⟨_, behind, hgroup, hfound, ?_, ?_, ?_, ?_, ?_⟩
  · intro inner hinner
    obtain ⟨⟨_, rest⟩, hrest, rfl⟩ := Option.map_eq_some_iff.mp hinner
    exact (htaken _ rest hrest).1
  · intro inner other hinner hotherInner
    rw [← hfound] at hinner hotherInner
    exact Option.some.inj (hinner.symm.trans hotherInner)
  · intro h
    rw [takeGroup?_of_unclosed hne h]
    exact ⟨rfl, hunclosed h⟩
  · intro h
    rw [takeGroup?_of_head?_ne h]
    exact ⟨rfl, hother h⟩
  · cases hrest : takeGroup? opening closing cursor.rest with
    | none => rfl
    | some taken =>
        obtain ⟨inner, rest⟩ := taken
        rw [← (htaken inner rest hrest).2]
        rfl

/-- The arguments of `decimal(10 (),))`, with a group of their own in them and a bracket too many
behind them. -/
def nestedArguments : Cursor :=
  ⟨[.ident "decimal", .leftParen, .num "10", .leftParen, .rightParen, .comma, .rightParen,
    .rightParen], 1⟩

/-- They end at the bracket that closes them, which is neither the first nor the last. -/
theorem group_matched_of_nestedArguments :
    Token.leftParen ≠ .rightParen ∧ Token.leftParen ≠ .endOfText ∧
      nestedArguments.group? .leftParen .rightParen =
        some (some [.num "10", .leftParen, .rightParen, .comma],
          { nestedArguments with position := 7 }) := by
  have hne : Token.leftParen ≠ .rightParen := by decide
  have hend : Token.leftParen ≠ .endOfText := by decide
  refine ⟨hne, hend, ?_⟩
  have hbalanced : Balanced .leftParen .rightParen 0 [.num "10", .leftParen, .rightParen,
      .comma] := by
    rw [balanced_cons_of_ne (by decide) (by decide), balanced_cons_opening hne,
      balanced_cons_closing hne]
    refine ⟨0, rfl, ?_⟩
    rw [balanced_cons_of_ne (by decide) (by decide), balanced_nil]
  obtain ⟨found, behind, hgroup, hfound, hbehind, -⟩ := group_matched hne hend nestedArguments
  have hinner : found = some [.num "10", .leftParen, .rightParen, .comma] :=
    (hfound _).mpr ⟨by decide, hbalanced⟩
  rw [hgroup, hbehind _ hinner, hinner]
  rfl

end Cursor

end Dbml.Source
