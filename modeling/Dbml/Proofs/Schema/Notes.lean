import Dbml.Proofs.Prisma.Notes
import Dbml.Proofs.TypeOrm.Notes

/-!
# Notes in generated code

Notes become comments, of one line in a Prisma schema and up to an end sign in an entity, but
nothing is done about line feeds and end signs in them.  So what is code in the texts that are
generated with comments need not be what is generated without.

`notes_in_comments_iff` says when it is.  In a Prisma schema it depends on the lines of the notes
behind their first ones; in an entity, on the notes that hold the end of a comment, and on the other
texts in which one begins.  Any note of one line without the end of a comment is harmless in both.
-/

namespace Dbml

open Text

/-- A Prisma schema without its comment lines. -/
def uncommentedSchemaText (provider : Option String) (schema : Schema) : List Char :=
  withoutCommentLines (Prisma.file (commentOptions true provider) schema).value.toList

/-- An entity without its comments. -/
def uncommentedEntityText (provider : Option String) (schema : Schema)
    (table : Table) : List Char :=
  withoutComments (TypeOrm.entity (commentOptions true provider) schema table).value.text.toList

/-- The Prisma schema that is generated without comments. -/
def plainSchemaText (provider : Option String) (schema : Schema) : List Char :=
  (Prisma.file (commentOptions false provider) schema).value.toList

/-- The entity that is generated without comments. -/
def plainEntityText (provider : Option String) (schema : Schema) (table : Table) : List Char :=
  (TypeOrm.entity (commentOptions false provider) schema table).value.text.toList

/-- The parts of an entity that is generated with comments: its head, and its properties with their
notes. -/
def entityParts (provider : Option String) (schema : Schema) (table : Table) : List Part :=
  (TypeOrm.entity (commentOptions true provider) schema table).value.parts

/-- **What notes do to generated code.**  Without its comment lines, a Prisma schema is the one that
is generated without comments just if that has no comment line, and each line of a note behind its
first one is a comment line itself; of a note of one line this is so.  The text of an entity is that
of its parts with a comment in front of some.  If each of these comments alone vanishes, or none
begins in the parts, the entity without its comments is the one that is generated without comments
just if both is so; the first holds if no note has the end of a comment in it, and the second if the
entity without comments has no beginning of one. -/
theorem notes_in_comments_iff (provider : Option String) (schema : Schema) :
    (uncommentedSchemaText provider schema = plainSchemaText provider schema ↔
      (∀ line ∈ lines (plainSchemaText provider schema), isCommentLine line = false) ∧
      ∀ table ∈ schema.tables, ∀ column ∈ table.columns, ∀ note ∈ column.note, IsLineNote note) ∧
    (∀ note : String, '\n' ∉ note.toList → IsLineNote note) ∧
    ∀ table,
      (TypeOrm.entity (commentOptions true provider) schema table).value.text.toList =
        commented (entityParts provider schema table) ∧
      plainEntityText provider schema table = plain (entityParts provider schema table) ∧
      (TypeOrm.NotesVanish schema table ∨ AllOpenNothing (entityParts provider schema table) →
        (uncommentedEntityText provider schema table = plainEntityText provider schema table ↔
          TypeOrm.NotesVanish schema table ∧ AllOpenNothing (entityParts provider schema table))) ∧
      ((∀ column ∈ table.columns, ∀ note ∈ column.note, ¬ "*/".toList <:+: note.toList) →
        TypeOrm.NotesVanish schema table) ∧
      (¬ "/**".toList <:+: plainEntityText provider schema table →
        AllOpenNothing (entityParts provider schema table)) := by
  refine ⟨Prisma.withoutCommentLines_file_iff provider schema, fun _ => isLineNote_of_not_mem, ?_⟩
  intro table
  refine ⟨TypeOrm.text_entity _ schema table, TypeOrm.text_entity_bare rfl _ schema table, ?_, ?_,
    ?_⟩
  · exact TypeOrm.withoutComments_entity_iff rfl rfl schema table
  · exact TypeOrm.notesVanish_of_not_infix
  · exact TypeOrm.allOpenNothing_entity rfl _

/-- Members with a note of two lines, of which the second one is a comment in a Prisma schema. -/
def membersExample : Schema where
  tables :=
    [{ name := "members"
       columns :=
        [{ name := "id", type := "int", primaryKey := true
           note := some "The number\n  /// of the card" },
         { name := "until", type := "date", note := some "The card is good up to then" }] }]

/-- The notes on members are comments in both texts. -/
theorem notes_in_comments_iff_of_members :
    uncommentedSchemaText none membersExample = plainSchemaText none membersExample ∧
    ∃ members, membersExample.tables = [members] ∧
      uncommentedEntityText none membersExample members =
        plainEntityText none membersExample members := by
  obtain ⟨hschema, -, hentity⟩ := notes_in_comments_iff none membersExample
  obtain ⟨-, -, hiff, hvanish, hopen⟩ := hentity membersExample.tables[0]
  refine ⟨hschema.mpr ⟨?_, ?_⟩, _, rfl, ?_⟩
  · decide +kernel
  · decide
  · have hA := hvanish (by decide)
    have hB := hopen (by decide +kernel)
    exact (hiff (.inl hA)).mpr ⟨hA, hB⟩

/-- A note of two lines, with the end of a comment in the first one. -/
def endingSource : String :=
  "Table t \x7b\n  id int [note: 'a */\\nb']\n\x7d"

/-- The schema of the source. -/
def endingExample : Schema where
  tables := [{ name := "t", columns := [{ name := "id", type := "int", note := some "a */\nb" }] }]

theorem parse_endingSource : (parse .strict endingSource.toList).outcome = .ok endingExample := by
  have hread : (parse .strict endingSource.toList).outcome.toOption.map
      (fun schema => (schema.tables, schema.relations, schema.metadata.isNone)) =
        some (endingExample.tables, [], true) := by
    decide +kernel
  cases houtcome : (parse .strict endingSource.toList).outcome with
  | error error =>
      rw [houtcome] at hread
      contradiction
  | ok parsed =>
      rw [houtcome] at hread
      obtain ⟨tables, relations, metadata⟩ := parsed
      obtain ⟨htables, hrest⟩ := Prod.mk.inj (Option.some.inj hread)
      obtain ⟨hrelations, hmetadata⟩ := Prod.mk.inj hrest
      cases htables
      cases hrelations
      cases Option.isNone_iff_eq_none.mp hmetadata
      rfl

/-- **A note may leave its comment.**  A line of it becomes one of the Prisma schema, and what
stands behind the end sign in it becomes code of the entity. -/
theorem note_outside_comments :
    (parse .strict endingSource.toList).outcome = .ok endingExample ∧
      uncommentedSchemaText none endingExample ≠ plainSchemaText none endingExample ∧
      ∃ table, endingExample.tables = [table] ∧
        uncommentedEntityText none endingExample table ≠
          plainEntityText none endingExample table := by
  refine ⟨parse_endingSource, fun hschema => ?_, _, rfl, fun hentity => ?_⟩
  · have hnotes := ((Prisma.withoutCommentLines_file_iff none endingExample).mp hschema).2
    have hnote : IsLineNote "a */\nb" :=
      hnotes _ (List.mem_singleton_self _) _ (List.mem_singleton_self _) _ rfl
    exact absurd hnote (by decide)
  · have hplain : ¬ "/**".toList <:+:
        plainEntityText none endingExample endingExample.tables[0] := by
      decide +kernel
    have hopen : AllOpenNothing (entityParts none endingExample endingExample.tables[0]) :=
      TypeOrm.allOpenNothing_entity rfl _ hplain
    have hnotes := ((TypeOrm.withoutComments_entity_iff rfl rfl _ _ (.inr hopen)).mp hentity).1
    have hnote : withoutComments (comment "a */\nb".toList) = [] :=
      hnotes _ (List.mem_singleton_self _) (by decide) _ rfl
    -- the comment ends behind the first letter, and the second one is left
    have hend : behindComment? (comment "a */\nb".toList) = some "\nb */\n  ".toList := by decide
    have hleft : dropIndent "\nb */\n  ".toList = 'b' :: " */\n  ".toList := by decide
    have hno : behindComment? ('b' :: " */\n  ".toList) = none := by decide
    rw [withoutComments_of_comment hend, hleft, withoutComments_cons hno] at hnote
    exact List.cons_ne_nil _ _ hnote

end Dbml
