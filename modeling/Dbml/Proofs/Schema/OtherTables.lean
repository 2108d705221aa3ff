import Mathlib.Data.List.Nodup
import Dbml.Proofs.Linking.Lookup

/-!
# What a table gets from the others

Generated code for a table has parts that come from the foreign keys of all other tables, one after
another.  What comes from some of them can be picked out again (`filter_flatMap_of_forall`), and
what comes from a single one is all there is just if the others give nothing
(`flatMap_eq_iff_of_nodup`).
-/

namespace Dbml

section Lists

variable {α β : Type} {l : List α}

/-- What is made from some elements can be picked out of a list, if it is known from which element
each piece is. -/
theorem filter_flatMap_of_forall {f : α → List β} {p : β → Bool} {q : α → Bool}
    (h : ∀ x ∈ l, ∀ y ∈ f x, p y = q x) : (l.flatMap f).filter p = (l.filter q).flatMap f := by
  induction l with
  | nil => rfl
  | cons x rest ih =>
      obtain ⟨hx, hrest⟩ := List.forall_mem_cons.mp h
      rw [List.flatMap_cons, List.filter_append, ih hrest]
      cases hq : q x with
      | true =>
          have hall : (f x).filter p = f x :=
            List.filter_eq_self.mpr fun y hy => (hx y hy).trans hq
          rw [hall, List.filter_cons_of_pos hq, List.flatMap_cons]
      | false =>
          have hnone : (f x).filter p = [] := by
            rw [List.filter_eq_nil_iff]
            intro y hy
            rw [hx y hy, hq]
            exact Bool.false_ne_true
          rw [hnone, List.filter_cons_of_neg (by simp [hq]), List.nil_append]

/-- One element gives all that is made from a list just if the others give nothing. -/
theorem flatMap_eq_iff_of_nodup {f : α → List β} (hnodup : l.Nodup) {x : α} (hx : x ∈ l) :
    l.flatMap f = f x ↔ ∀ y ∈ l, y ≠ x → f y = [] := by
  obtain ⟨before, after, rfl⟩ := List.append_of_mem hx
  rw [List.nodup_middle, List.nodup_cons, List.mem_append, not_or] at hnodup
  obtain ⟨⟨hbefore, hafter⟩, -⟩ := hnodup
  rw [List.flatMap_append, List.flatMap_cons]
  constructor
  · intro hsame
    have hlength := congrArg List.length hsame
    simp only [List.length_append] at hlength
    have hnone : before.flatMap f = [] ∧ after.flatMap f = [] := by
      constructor <;> exact List.length_eq_zero_iff.mp (by omega)
    rw [List.flatMap_eq_nil_iff, List.flatMap_eq_nil_iff] at hnone
    intro y hy hne
    rcases List.mem_append.mp hy with hmem | hmem
    · exact hnone.1 y hmem
    · exact hnone.2 y ((List.mem_cons.mp hmem).resolve_left hne)
  · intro h
    have hnone : before.flatMap f = [] ∧ after.flatMap f = [] := by
      constructor
      · exact List.flatMap_eq_nil_iff.mpr fun y hy =>
          h y (by simp [hy]) fun hsame => hbefore (hsame ▸ hy)
      · exact List.flatMap_eq_nil_iff.mpr fun y hy =>
          h y (by simp [hy]) fun hsame => hafter (hsame ▸ hy)
    rw [hnone.1, hnone.2, List.nil_append, List.append_nil]

end Lists

namespace Schema

variable {schema : Schema}

theorem table?_of_mem (hnames : (schema.tables.map (·.name)).Nodup) {table : Table}
    (h : table ∈ schema.tables) : schema.table? table.name = some table :=
  find?_eq_some_of_nodup hnames h

theorem name_ne_of_ne (hnames : (schema.tables.map (·.name)).Nodup) {a b : Table}
    (ha : a ∈ schema.tables) (hb : b ∈ schema.tables) (hne : a ≠ b) : a.name ≠ b.name :=
  fun hsame => hne (List.inj_on_of_nodup_map hnames ha hb hsame)

end Schema

end Dbml
