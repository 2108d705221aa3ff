import Mathlib.Data.List.Induction
import Mathlib.Data.List.Nodup
import Dbml.Proofs.Json.Values

/-!
# Lists without repetitions

A list is rid of repetitions by keeping the first of equal elements.

* `length_eraseDups_eq_iff`: nothing is left out just if the elements are distinct;
* `two_le_length_eraseDups_iff`: two are left just if two of them differ;
* `Keyed.foldl_set`: keys that are set one after another are left each at its first place with its
  last value.
-/

namespace Dbml

/-! ### Lists without repetitions -/

section EraseDups

variable {α β : Type} [DecidableEq α] [DecidableEq β] {l : List α}

theorem eraseDups_concat (l : List α) (x : α) :
    (l ++ [x]).eraseDups = if x ∈ l then l.eraseDups else l.eraseDups ++ [x] := by
  have hx : [x].eraseDups = [x] := rfl
  rw [List.eraseDups_append]
  by_cases h : x ∈ l <;> simp [List.removeAll, h, hx]

theorem nodup_eraseDups (l : List α) : l.eraseDups.Nodup := by
  induction l using List.reverseRecOn with
  | nil => simp
  | append_singleton l x ih =>
      rw [eraseDups_concat]
      split
      · exact ih
      · rename_i hx
        rw [← List.concat_eq_append, List.nodup_concat, List.mem_eraseDups]
        exact ⟨hx, ih⟩

theorem length_eraseDups_le (l : List α) : l.eraseDups.length ≤ l.length := by
  induction l using List.reverseRecOn with
  | nil => simp
  | append_singleton l x ih =>
      rw [eraseDups_concat, List.length_append]
      split
      · exact Nat.le_add_right_of_le ih
      · simpa using ih

/-- Nothing is left out just if there is nothing to leave out. -/
theorem length_eraseDups_eq_iff : l.eraseDups.length = l.length ↔ l.Nodup := by
  induction l using List.reverseRecOn with
  | nil => simp
  | append_singleton l x ih =>
      have hnodup : (l ++ [x]).Nodup ↔ x ∉ l ∧ l.Nodup := by
        rw [← List.concat_eq_append, List.nodup_concat]
      rw [eraseDups_concat, hnodup, List.length_append, List.length_singleton]
      by_cases hx : x ∈ l
      · have hle : l.eraseDups.length ≤ l.length := length_eraseDups_le l
        rw [if_pos hx]
        exact iff_of_false (by omega) fun h => h.1 hx
      · rw [if_neg hx, List.length_append, List.length_singleton, Nat.add_right_cancel_iff, ih]
        exact (and_iff_right hx).symm

theorem eraseDups_eq_self (h : l.Nodup) : l.eraseDups = l := by
  induction l using List.reverseRecOn with
  | nil => rfl
  | append_singleton l x ih =>
      rw [← List.concat_eq_append, List.nodup_concat] at h
      rw [eraseDups_concat, if_neg h.1, ih h.2]

theorem eraseDups_map {f : α → β} (hf : Function.Injective f) (l : List α) :
    (l.map f).eraseDups = l.eraseDups.map f := by
  induction l using List.reverseRecOn with
  | nil => rfl
  | append_singleton l x ih =>
      rw [List.map_append, List.map_singleton, eraseDups_concat, eraseDups_concat, ih]
      by_cases hx : x ∈ l
      · rw [if_pos hx, if_pos ((List.mem_map_of_injective hf).mpr hx)]
      · rw [if_neg hx, if_neg (mt (List.mem_map_of_injective hf).mp hx), List.map_append,
          List.map_singleton]

/-- Two elements are left just if two of them differ. -/
theorem two_le_length_eraseDups_iff : 2 ≤ l.eraseDups.length ↔ ∃ a ∈ l, ∃ b ∈ l, a ≠ b := by
  constructor
  · intro h
    obtain ⟨a, b, rest, hrest⟩ : ∃ a b rest, l.eraseDups = a :: b :: rest := by
      match l.eraseDups, h with
      | a :: b :: rest, _ => exact ⟨a, b, rest, rfl⟩
    have hmem : ∀ x ∈ a :: b :: rest, x ∈ l := fun x hx => List.mem_eraseDups.mp (hrest ▸ hx)
    have hne : a ≠ b := by
      rintro rfl
      have hnodup : (a :: a :: rest).Nodup := hrest ▸ nodup_eraseDups l
      exact (List.nodup_cons.mp hnodup).1 List.mem_cons_self
    exact ⟨a, hmem a (by simp), b, hmem b (by simp), hne⟩
  · rintro ⟨a, ha, b, hb, hne⟩
    by_contra hlength
    obtain ⟨c, hc⟩ : ∃ c, ∀ x ∈ l.eraseDups, x = c := by
      match l.eraseDups, hlength with
      | [], _ => exact ⟨a, by simp⟩
      | [c], _ => exact ⟨c, by simp⟩
      | _ :: _ :: _, hlength => exact absurd (Nat.le_add_left _ _) hlength
    exact hne ((hc a (List.mem_eraseDups.mpr ha)).trans (hc b (List.mem_eraseDups.mpr hb)).symm)

end EraseDups

/-! ### Keys that are set one after another -/

namespace Keyed

variable {α β : Type} {entries : Keyed α}

theorem lookup_set (key other : String) (value : α) (entries : Keyed α) :
    (set key value entries).lookup other =
      if other = key then some value else entries.lookup other := by
  induction entries with
  | nil => by_cases h : other = key <;> simp [set, List.lookup_cons, h, beq_false_of_ne]
  | cons entry rest ih =>
      obtain ⟨first, old⟩ := entry
      rw [set]
      by_cases hfirst : first = key
      · by_cases h : other = key <;> simp [hfirst, List.lookup_cons, h, beq_false_of_ne]
      · rw [if_neg hfirst, List.lookup_cons, List.lookup_cons, ih]
        by_cases hother : other = first
        · simp [hother, hfirst]
        · simp [hother, beq_false_of_ne]

/-- Where keys are distinct, a list is made up of its keys and what is found for them. -/
theorem eq_filterMap_lookup (h : (entries.map (·.1)).Nodup) :
    entries = (entries.map (·.1)).filterMap fun key => (entries.lookup key).map (key, ·) := by
  induction entries with
  | nil => rfl
  | cons entry rest ih =>
      obtain ⟨key, value⟩ := entry
      rw [List.map_cons, List.nodup_cons] at h
      have hrest : (rest.map (·.1)).filterMap (fun other =>
            (List.lookup other ((key, value) :: rest)).map (other, ·)) =
          (rest.map (·.1)).filterMap fun other => (rest.lookup other).map (other, ·) := by
        refine List.filterMap_congr fun other hother => ?_
        have hne : other ≠ key := by
          rintro rfl
          exact h.1 hother
        rw [List.lookup_cons, beq_false_of_ne hne]
      rw [List.map_cons, List.filterMap_cons, hrest, ← ih h.2]
      simp

variable {key : β → String} {value : β → α}

theorem keys_foldl_set (xs : List β) :
    (xs.foldl (fun entries x => set (key x) (value x) entries) []).map (·.1) =
      (xs.map key).eraseDups := by
  induction xs using List.reverseRecOn with
  | nil => rfl
  | append_singleton xs x ih =>
      rw [List.foldl_concat, List.map_append, List.map_singleton, eraseDups_concat, ← ih]
      by_cases hx : key x ∈ xs.map key
      · have hkey : key x ∈
            (xs.foldl (fun entries x => set (key x) (value x) entries) []).map (·.1) := by
          rwa [ih, List.mem_eraseDups]
        rw [if_pos hx, keys_set_of_mem hkey]
      · have hkey : key x ∉
            (xs.foldl (fun entries x => set (key x) (value x) entries) []).map (·.1) := by
          rwa [ih, List.mem_eraseDups]
        rw [if_neg hx, set_of_not_mem hkey, List.map_append, List.map_singleton]

theorem lookup_foldl_set (xs : List β) (name : String) :
    (xs.foldl (fun entries x => set (key x) (value x) entries) []).lookup name =
      (xs.reverse.find? (key · = name)).map value := by
  induction xs using List.reverseRecOn with
  | nil => rfl
  | append_singleton xs x ih =>
      rw [List.foldl_concat, lookup_set, ih, List.reverse_concat, List.find?_cons]
      by_cases hx : key x = name
      · simp [hx]
      · simp [hx, Ne.symm hx]

/-- Each key is at the place where it was first set, with the value that was set last. -/
theorem foldl_set (xs : List β) :
    xs.foldl (fun entries x => set (key x) (value x) entries) [] =
      (xs.map key).eraseDups.filterMap fun name =>
        (xs.reverse.find? (key · = name)).map fun x => (name, value x) := by
  have hkeys : (xs.foldl (fun entries x => set (key x) (value x) entries) []).map (·.1) =
      (xs.map key).eraseDups := keys_foldl_set xs
  have hentries := eq_filterMap_lookup (hkeys ▸ nodup_eraseDups _)
  rw [hkeys] at hentries
  rw [hentries]
  refine List.filterMap_congr fun name _ => ?_
  rw [lookup_foldl_set, Option.map_map]
  rfl

end Keyed

end Dbml
