import Dbml.Text.Blank

/-!
# Texts that are put together

Texts are written one after the other with a separator between each two.  If the separator has a
line feed in it, the lines of the whole are those of the texts.

* `exists_intercalate_cons`: the first text stands first;
* `HasLines.paragraphs`, `HasLines.indented`: texts that have further lines in between, put
  together, have them all;
* `Inserted.filter_eq_iff`: such lines are what is taken away just if none of the others are, and
  all of these are.
-/

namespace Dbml

theorem exists_intercalate_cons (separator text : String) (rest : List String) :
    ∃ more, separator.intercalate (text :: rest) = text ++ more := by
  cases rest with
  | nil => exact ⟨"", by rw [String.intercalate_singleton, String.append_empty]⟩
  | cons next rest =>
      exact ⟨separator ++ separator.intercalate (next :: rest), by
        rw [String.intercalate_cons_cons, String.append_assoc]⟩

theorem Text.lines_append_cons (text rest : List Char) :
    lines (text ++ '\n' :: rest) = lines text ++ lines rest :=
  List.splitOn_append_cons_self text rest

/-! ### Lines in between -/

/-- The list has the elements of `base`, in their order, and those of `more` somewhere in
between. -/
structure Inserted {α : Type} (more base list : List α) : Prop where
  sublist : base.Sublist list
  perm : list.Perm (base ++ more)

namespace Inserted

variable {α : Type} {more more' base base' list list' : List α}

theorem refl (base : List α) : Inserted [] base base :=
  ⟨List.Sublist.refl base, by rw [List.append_nil]⟩

theorem inFront (more base : List α) : Inserted more base (more ++ base) :=
  ⟨List.sublist_append_right more base, List.perm_append_comm⟩

theorem append (h : Inserted more base list) (h' : Inserted more' base' list') :
    Inserted (more ++ more') (base ++ base') (list ++ list') where
  sublist := h.sublist.append h'.sublist
  perm := by
    have hswap : (more ++ base').Perm (base' ++ more) := List.perm_append_comm
    calc
      List.Perm (list ++ list') ((base ++ more) ++ (base' ++ more')) := h.perm.append h'.perm
      _ = base ++ ((more ++ base') ++ more') := by simp only [List.append_assoc]
      List.Perm _ (base ++ ((base' ++ more) ++ more')) :=
        (hswap.append_right more').append_left base
      _ = (base ++ base') ++ (more ++ more') := by simp only [List.append_assoc]

/-- What is kept is the list without the further elements just if those are not kept and all others
are. -/
theorem filter_eq_iff (h : Inserted more base list) (p : α → Bool) :
    list.filter p = base ↔ (∀ x ∈ base, p x = true) ∧ ∀ x ∈ more, p x = false := by
  have hcount : (list.filter p).length = (base.filter p).length + (more.filter p).length := by
    rw [(h.perm.filter p).length_eq, List.filter_append, List.length_append]
  constructor
  · intro heq
    have hbase : ∀ x ∈ base, p x = true := by
      intro x hx
      rw [← heq] at hx
      exact (List.mem_filter.mp hx).2
    have hmore : more.filter p = [] := by
      rw [heq, List.filter_eq_self.mpr hbase] at hcount
      exact List.length_eq_zero_iff.mp (by omega)
    exact ⟨hbase, fun x hx => Bool.eq_false_iff.mpr (List.filter_eq_nil_iff.mp hmore x hx)⟩
  · rintro ⟨hbase, hmore⟩
    have hall : base.filter p = base := List.filter_eq_self.mpr hbase
    have hnone : more.filter p = [] :=
      List.filter_eq_nil_iff.mpr fun x hx => Bool.eq_false_iff.mp (hmore x hx)
    -- nothing of the list but `base` is kept, and `base` is kept in its order
    refine (List.Sublist.eq_of_length ?_ ?_).symm
    · rw [← hall]
      exact h.sublist.filter p
    · rw [hcount, hall, hnone, List.length_nil, Nat.add_zero]

end Inserted

/-- The lines of one text are those of another one with further lines in between. -/
def HasLines (more : List (List Char)) (base text : String) : Prop :=
  Inserted more (Text.lines base.toList) (Text.lines text.toList)

namespace HasLines

variable {more more' : List (List Char)} {base base' text text' : String}

theorem refl (text : String) : HasLines [] text text :=
  Inserted.refl _

/-- Texts are put together at the end of a line. -/
theorem lineFeed (h : HasLines more base text) (h' : HasLines more' base' text') :
    HasLines (more ++ more') (base ++ "\n" ++ base') (text ++ "\n" ++ text') := by
  have hlines : ∀ a b : String,
      Text.lines (a ++ "\n" ++ b).toList = Text.lines a.toList ++ Text.lines b.toList := by
    intro a b
    rw [← Text.lines_append_cons]
    simp
  rw [HasLines, hlines, hlines]
  exact h.append h'

/-- Texts with a blank line between each two. -/
theorem paragraphs {α : Type} {more : α → List (List Char)} {base text : α → String}
    (h : ∀ x, HasLines (more x) (base x) (text x)) (xs : List α) :
    HasLines (xs.flatMap more) ("\n\n".intercalate (xs.map base))
      ("\n\n".intercalate (xs.map text)) := by
  induction xs with
  | nil => exact refl _
  | cons x rest ih =>
      cases rest with
      | nil =>
          rw [List.map_singleton, List.map_singleton, String.intercalate_singleton,
            String.intercalate_singleton, List.flatMap_singleton]
          exact h x
      | cons y rest =>
          have hblank : "\n\n" = "\n" ++ "" ++ "\n" := by decide
          rw [List.map_cons, List.map_cons, List.map_cons, List.map_cons,
            String.intercalate_cons_cons, String.intercalate_cons_cons, List.flatMap_cons, hblank]
          simp only [← String.append_assoc]
          have hparagraph := ((h x).lineFeed (refl "")).lineFeed ih
          simpa only [List.append_nil, List.map_cons, hblank, ← String.append_assoc]
            using hparagraph

/-- Texts on lines of their own, all of them indented. -/
theorem indented {α : Type} {more : α → List (List Char)} {base text : α → String}
    (h : ∀ x, HasLines (more x) ("  " ++ base x) ("  " ++ text x)) (x : α) (rest : List α) :
    HasLines ((x :: rest).flatMap more) ("  " ++ "\n  ".intercalate ((x :: rest).map base))
      ("  " ++ "\n  ".intercalate ((x :: rest).map text)) := by
  induction rest generalizing x with
  | nil =>
      rw [List.map_singleton, List.map_singleton, String.intercalate_singleton,
        String.intercalate_singleton, List.flatMap_singleton]
      exact h x
  | cons y rest ih =>
      have hindent : "\n  " = "\n" ++ "  " := by decide
      have hline := (h x).lineFeed (ih y)
      rw [List.map_cons, List.map_cons, List.map_cons, List.map_cons, String.intercalate_cons_cons,
        String.intercalate_cons_cons, List.flatMap_cons]
      simpa only [hindent, List.map_cons, ← String.append_assoc] using hline

end HasLines

end Dbml
