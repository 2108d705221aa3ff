import Mathlib.Data.List.Nodup

/-!
# Names of members

The class or model of a table has members of three kinds: those for its columns, those for the
tables that its foreign keys lead to, and those for the foreign keys that lead to it.  The columns
bring their names along.  All other names are made from the names of tables, and nothing keeps two
of them apart.

`MembersApart` lists what has to be different, kind by kind; `nodup_memberNames_iff` says that this
is all.
-/

namespace Dbml

/-- No name of a member is the name of another one, except that two columns are not compared.  The
members for `targets` and for `sources` have the names that `targetName` and `sourceName` make for
them. -/
structure MembersApart {τ σ : Type} (columns : List String) (targets : List τ) (sources : List σ)
    (targetName : τ → String) (sourceName : σ → String) : Prop where
  /-- No two keys lead to tables of one name. -/
  target : targets.Pairwise fun a b => targetName a ≠ targetName b
  /-- No two keys that lead here have one name. -/
  source : sources.Pairwise fun a b => sourceName a ≠ sourceName b
  /-- No column has the name for a key. -/
  column_target : ∀ name ∈ columns, ∀ target ∈ targets, name ≠ targetName target
  /-- No column has the name for a key that leads here. -/
  column_source : ∀ name ∈ columns, ∀ source ∈ sources, name ≠ sourceName source
  /-- No key has the name for one that leads here. -/
  target_source : ∀ target ∈ targets, ∀ source ∈ sources, targetName target ≠ sourceName source

variable {τ σ : Type} {columns : List String} {targets : List τ} {sources : List σ}
  {targetName : τ → String} {sourceName : σ → String}

/-- No name occurs twice just if the columns have different names and all other members are
apart. -/
theorem nodup_memberNames_iff :
    (columns ++ targets.map targetName ++ sources.map sourceName).Nodup ↔
      columns.Nodup ∧ MembersApart columns targets sources targetName sourceName := by
  rw [List.nodup_append, List.nodup_append]
  constructor
  · rintro ⟨⟨hcolumns, htargets, hcolumn⟩, hsources, hsource⟩
    refine ⟨hcolumns, List.pairwise_map.mp htargets, List.pairwise_map.mp hsources, ?_, ?_, ?_⟩
    · intro name hname target htarget
      exact hcolumn name hname _ (List.mem_map_of_mem htarget)
    · intro name hname source hmem
      apply hsource name (List.mem_append_left _ hname)
      exact List.mem_map_of_mem hmem
    · intro target htarget source hmem
      apply hsource
      · exact List.mem_append_right _ (List.mem_map_of_mem htarget)
      · exact List.mem_map_of_mem hmem
  · rintro ⟨hcolumns, hapart⟩
    have htargets : (targets.map targetName).Nodup := List.pairwise_map.mpr hapart.target
    have hsources : (sources.map sourceName).Nodup := List.pairwise_map.mpr hapart.source
    refine ⟨⟨hcolumns, htargets, ?_⟩, hsources, ?_⟩
    · intro name hname other hother
      obtain ⟨target, htarget, rfl⟩ := List.mem_map.mp hother
      exact hapart.column_target name hname target htarget
    · intro name hname other hother
      obtain ⟨source, hsource, rfl⟩ := List.mem_map.mp hother
      rcases List.mem_append.mp hname with hcolumn | htarget
      · exact hapart.column_source name hcolumn source hsource
      · obtain ⟨target, hmem, rfl⟩ := List.mem_map.mp htarget
        exact hapart.target_source target hmem source hsource

end Dbml
