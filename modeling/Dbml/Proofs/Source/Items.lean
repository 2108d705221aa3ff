import Dbml.Proofs.Source.Brackets
import Dbml.Proofs.Source.Writer

/-!
# Items of a list of settings

Commas separate the items of a list, except inside of brackets, round or square.  So items in which
brackets are balanced, and which have commas inside of brackets only, are told apart again when they
are joined by commas.

* `IsItem`: what an item may be, whatever it means;
* `items_intercalate`: the items of a list are those that it joins;
* `takeSettings_settingsTokens`: so are the settings of a list in square brackets.
-/

namespace Dbml.Source

/-- Behind `parens` round and `squares` square brackets that are open, the tokens close them all,
and have commas only where a bracket is open. -/
structure ClosesItem (parens squares : Nat) (tokens : List Token) : Prop where
  parensClosed : Balanced .leftParen .rightParen parens tokens
  squaresClosed : Balanced .leftBracket .rightBracket squares tokens
  commaInside : ∀ before after, tokens = before ++ .comma :: after →
    before.count .rightParen < before.count .leftParen + parens ∨
      before.count .rightBracket < before.count .leftBracket + squares

/-- An item of a list: some tokens in which brackets are balanced, and commas stand inside of
brackets. -/
structure IsItem (item : List Token) : Prop where
  ne_nil : item ≠ []
  closes : ClosesItem 0 0 item

/-- The number of brackets of either kind that are open behind a token. -/
def itemDepth (depth : Nat) : Token → Nat
  | .leftParen | .leftBracket => depth + 1
  | .rightParen | .rightBracket => depth - 1
  | _ => depth

variable {parens squares depth : Nat} {token : Token} {tokens item pending : List Token}
  {parts : List (List Token)}

/-! ### Reading an item -/

theorem itemsAfter_cons (h : token = .comma → depth ≠ 0) (pending rest : List Token) :
    itemsAfter depth pending (token :: rest) =
      itemsAfter (itemDepth depth token) (token :: pending) rest := by
  cases token with
  | comma =>
      cases depth with
      | zero => exact absurd rfl (h rfl)
      | succ depth => rfl
  | _ => rfl

theorem ClosesItem.tail (h : ClosesItem parens squares (token :: tokens)) :
    (token = .comma → parens + squares ≠ 0) ∧
      ∃ parens' squares', itemDepth (parens + squares) token = parens' + squares' ∧
        ClosesItem parens' squares' tokens := by
  obtain ⟨hparens, hsquares, hcomma⟩ := h
  obtain ⟨parens', hcountParens, hparens⟩ := balanced_cons.mp hparens
  obtain ⟨squares', hcountSquares, hsquares⟩ := balanced_cons.mp hsquares
  refine ⟨?_, parens', squares', ?_, hparens, hsquares, ?_⟩
  · rintro rfl
    have hfirst := hcomma [] tokens rfl
    rw [List.count_nil, List.count_nil, List.count_nil, List.count_nil] at hfirst
    omega
  · cases token <;> simp [itemDepth] at hcountParens hcountSquares ⊢ <;> omega
  · intro before after htokens
    have hlonger := hcomma (token :: before) after (congrArg (token :: ·) htokens)
    have hcount : ∀ bracket,
      (token :: before).count bracket = [token].count bracket + before.count bracket :=
      fun bracket => @List.count_append _ _ bracket [token] before
    rw [hcount, hcount, hcount, hcount] at hlonger
    omega

/-- The tokens of an item belong to the item that is begun, and no bracket is open behind them. -/
theorem itemsAfter_item (h : ClosesItem parens squares item) (pending rest : List Token) :
    itemsAfter (parens + squares) pending (item ++ rest) =
      itemsAfter 0 (item.reverse ++ pending) rest := by
  induction item generalizing parens squares pending with
  | nil =>
      have hparens : parens = 0 := balanced_nil.mp h.parensClosed
      have hsquares : squares = 0 := balanced_nil.mp h.squaresClosed
      rw [hparens, hsquares]
      rfl
  | cons token item ih =>
      obtain ⟨hcomma, parens', squares', hdepth, hitem⟩ := h.tail
      rw [List.cons_append, itemsAfter_cons hcomma, hdepth, ih hitem, List.reverse_cons,
        List.append_assoc, List.singleton_append]

/-- The items of a list are those that it joins. -/
theorem items_intercalate (h : ∀ item ∈ parts, IsItem item) :
    items ([.comma].intercalate parts) = parts := by
  induction parts with
  | nil => rfl
  | cons item rest ih =>
      obtain ⟨hne, hitem⟩ := h item List.mem_cons_self
      have hbegun : item.reverse.isEmpty = false := by
        simpa using hne
      -- the last item has no comma behind it
      cases rest with
      | nil =>
          have hone := itemsAfter_item hitem [] []
          rw [List.append_nil, List.append_nil] at hone
          rw [items, List.intercalate_singleton]
          refine hone.trans ?_
          rw [itemsAfter, hbegun, List.reverse_reverse]
          rfl
      | cons next rest =>
          have hrest : items ([.comma].intercalate (next :: rest)) = next :: rest :=
            ih fun other hother => h other (List.mem_cons_of_mem _ hother)
          have hfirst := itemsAfter_item hitem [] (.comma :: [.comma].intercalate (next :: rest))
          rw [List.append_nil] at hfirst
          rw [List.intercalate_cons_cons, items, List.append_assoc, List.singleton_append]
          refine hfirst.trans ?_
          rw [itemsAfter, hbegun, List.reverse_reverse]
          exact congrArg (List.cons item) hrest

/-! ### Plain tokens -/

/-- A token that groups nothing in a list of settings. -/
def isPlain : Token → Bool
  | .leftBrace | .rightBrace | .leftParen | .rightParen | .leftBracket | .rightBracket | .comma =>
    false
  | _ => true

theorem isItem_of_plain (hne : item ≠ []) (hplain : ∀ token ∈ item, isPlain token = true) :
    IsItem item := by
  have hnot : ∀ bracket, isPlain bracket = false → bracket ∉ item := by
    intro bracket hbracket hmem
    rw [hplain bracket hmem] at hbracket
    contradiction
  refine ⟨hne, balanced_of_not_mem (hnot _ rfl) (hnot _ rfl),
    balanced_of_not_mem (hnot _ rfl) (hnot _ rfl), ?_⟩
  rintro before after rfl
  exact absurd (List.mem_append_right before List.mem_cons_self) (hnot .comma rfl)

/-! ### Lists in square brackets -/

theorem balanced_intercalate (h : ∀ item ∈ parts, IsItem item) :
    Balanced .leftBracket .rightBracket 0 ([.comma].intercalate parts) := by
  have hnil : Balanced .leftBracket .rightBracket 0 [] := balanced_nil.mpr rfl
  induction parts with
  | nil => exact hnil
  | cons item rest ih =>
      have hitem := (h item List.mem_cons_self).closes.squaresClosed
      cases rest with
      | nil =>
          rw [List.intercalate_singleton]
          exact hitem
      | cons next rest =>
          have hrest := ih fun other hother => h other (List.mem_cons_of_mem _ hother)
          rw [List.intercalate_cons_cons, List.append_assoc, List.singleton_append]
          exact hitem.append ((balanced_cons_of_ne (by decide) (by decide)).mpr hrest)

theorem takeSettings_settingsTokens (h : ∀ item ∈ parts, IsItem item) :
    takeSettings (settingsTokens parts) = (parts, []) := by
  unfold settingsTokens
  split
  · rename_i hempty
    rw [List.isEmpty_iff.mp hempty]
    rfl
  · have hgroup : takeGroup? .leftBracket .rightBracket
        (.leftBracket :: ([.comma].intercalate parts ++ [.rightBracket])) =
          some ([.comma].intercalate parts, []) :=
      (takeGroup?_eq_some_iff (by decide)).mpr ⟨rfl, balanced_intercalate h⟩
    rw [takeSettings, hgroup]
    exact congrArg (·, []) (items_intercalate h)

end Dbml.Source
