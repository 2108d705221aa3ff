import Dbml.Proofs.Scan.Layout
import Dbml.Proofs.Schema.Rendering
import Dbml.Proofs.Text.Joined

/-!
# Notes in Prisma schemas

The note on a column is written in front of its field, behind three slashes.  The slashes make a
comment of one line only, and a note may have several, all of which are written as they are.

* `hasLines_file`: the file with comments has the lines of the file without them, and those of the
  notes in between;
* `lines_commentedNote`: of the lines of a note the first is always a comment.

`withoutCommentLines_file_iff` puts them together.
-/

namespace Dbml

namespace Text

/-- The line is a comment: its first characters but for blanks are three slashes. -/
def isCommentLine (line : List Char) : Bool :=
  "///".toList.isPrefixOf (line.dropWhile isBlank)

/-- The text without its comment lines. -/
def withoutCommentLines (text : List Char) : List Char :=
  ofLines ((lines text).filter fun line => !isCommentLine line)

/-- The lines of a note behind the first one are comments by themselves. -/
def IsLineNote (note : String) : Prop :=
  ∀ line ∈ (lines note.toList).tail, isCommentLine line = true

instance (note : String) : Decidable (IsLineNote note) :=
  inferInstanceAs (Decidable (∀ line ∈ (lines note.toList).tail, isCommentLine line = true))

/-! ### Lines of texts -/

/-- A text is what is left of another one, unless no line is left, if its lines are. -/
theorem withoutCommentLines_eq_iff {text base : List Char}
    (hkept : ∃ line ∈ lines text, isCommentLine line = false) :
    withoutCommentLines text = base ↔
      ((lines text).filter fun line => !isCommentLine line) = lines base := by
  constructor
  · rintro rfl
    obtain ⟨line, hline, hplain⟩ := hkept
    have hmem : line ∈ (lines text).filter fun line => !isCommentLine line :=
      List.mem_filter.mpr ⟨hline, by rw [hplain, Bool.not_false]⟩
    exact (lines_ofLines (fun line hline => not_mem_of_mem_lines (List.mem_filter.mp hline).1)
      (List.ne_nil_of_mem hmem)).symm
  · intro h
    rw [withoutCommentLines, h]
    exact List.intercalate_splitOn '\n'

/-- Slashes are put in front of the first line of a note. -/
theorem lines_commentedNote (note : List Char) : ∃ first,
    lines note = first :: (lines note).tail ∧
      lines ("  /// ".toList ++ note) = ("  /// ".toList ++ first) :: (lines note).tail := by
  induction note using induction_on_lines with
  | last line hline =>
      refine ⟨line, by rw [lines_of_not_mem hline, List.tail_cons], ?_⟩
      rw [lines_of_not_mem hline, lines_of_not_mem (by simp [hline]), List.tail_cons]
  | more line rest hline =>
      refine ⟨line, by rw [lines_append hline, List.tail_cons], ?_⟩
      rw [← List.append_assoc, lines_append hline, lines_append (by simp [hline]), List.tail_cons]

theorem isCommentLine_slashes (line : List Char) :
    isCommentLine ("  /// ".toList ++ line) = true :=
  rfl

/-- The comment for a note has no line that is no comment just if the note has no such line behind
its first one. -/
theorem isLineNote_iff {note : String} :
    (∀ line ∈ lines ("  /// ".toList ++ note.toList), isCommentLine line = true) ↔
      IsLineNote note := by
  obtain ⟨first, -, hlines⟩ := lines_commentedNote note.toList
  rw [hlines, List.forall_mem_cons, IsLineNote]
  exact and_iff_right (isCommentLine_slashes first)

theorem isLineNote_of_not_mem {note : String} (h : '\n' ∉ note.toList) : IsLineNote note := by
  rw [IsLineNote, lines_of_not_mem h]
  exact fun line hline => absurd hline List.not_mem_nil

end Text

/-- The options with and without comments. -/
def commentOptions (comments : Bool) (provider : Option String) : GeneratorOptions where
  comments := comments
  provider := provider

namespace Prisma

/-- The lines of the comment for the note on a column. -/
def noteLines (column : Column) : List (List Char) :=
  match column.note with
  | some note => Text.lines ("  /// ".toList ++ note.toList)
  | none => []

/-- What the scalar fields of a model are for: the columns of its table, and in front of them
nothing for the key of a junction. -/
def fieldSources (table : Table) : List (Option Column) :=
  (if isJunction table then [none] else []) ++ table.columns.map some

/-- The scalar field of a column, or the key of a junction. -/
def fieldOf (options : GeneratorOptions) (junction : Bool) : Option Column → ScalarField
  | some column => scalarField options junction column
  | none => junctionKey

variable {provider : Option String} {schema : Schema} {table : Table} {junction : Bool}

/-! ### Fields -/

theorem hasLines_scalarField (provider : Option String) (junction : Bool) (column : Column) :
    HasLines (noteLines column)
      ("  " ++ (scalarField (commentOptions false provider) junction column).text)
      ("  " ++ (scalarField (commentOptions true provider) junction column).text) := by
  obtain ⟨plain, hplain⟩ : ∃ plain,
      plain = (scalarField (commentOptions false provider) junction column).text := ⟨_, rfl⟩
  have hcommented : (scalarField (commentOptions true provider) junction column).text =
      (match column.note with
        | some note => "/// " ++ note ++ "\n  "
        | none => "") ++ plain := by
    rw [hplain]
    exact congrArg (_ ++ ·) String.empty_append.symm
  rw [← hplain, hcommented, noteLines]
  cases column.note with
  | none =>
      rw [String.empty_append]
      exact HasLines.refl _
  | some note =>
      have hsplit : "  " ++ ("/// " ++ note ++ "\n  " ++ plain) =
          ("  /// " ++ note) ++ "\n" ++ ("  " ++ plain) := by
        have hindent : "\n  " = "\n" ++ "  " := by decide
        have hslashes : "  /// " = "  " ++ "/// " := by decide
        rw [hindent, hslashes]
        simp only [String.append_assoc]
      have hlines : Text.lines ("  " ++ ("/// " ++ note ++ "\n  " ++ plain)).toList =
          Text.lines ("  /// ".toList ++ note.toList) ++ Text.lines ("  " ++ plain).toList := by
        rw [hsplit, ← Text.lines_append_cons]
        simp
      rw [HasLines, hlines]
      exact Inserted.inFront _ _

theorem hasLines_fieldOf (provider : Option String) (junction : Bool) (source : Option Column) :
    HasLines (source.elim [] noteLines)
      ("  " ++ (fieldOf (commentOptions false provider) junction source).text)
      ("  " ++ (fieldOf (commentOptions true provider) junction source).text) := by
  cases source with
  | none => exact HasLines.refl _
  | some column => exact hasLines_scalarField provider junction column

theorem scalars_eq_map (options : GeneratorOptions) (schema : Schema) (table : Table) :
    (model options schema table).value.scalars =
      (fieldSources table).map (fieldOf options (isJunction table)) := by
  rw [scalars_model, fieldSources, List.map_append, List.map_map]
  cases isJunction table <;> rfl

theorem flatMap_fieldSources (table : Table) :
    (fieldSources table).flatMap (fun source => source.elim [] noteLines) =
      table.columns.flatMap noteLines := by
  rw [fieldSources, List.flatMap_append, List.flatMap_map]
  cases isJunction table <;> rfl

/-! ### Models -/

theorem sections_eq (model : Model) :
    model.sections =
      (if model.scalars = [] then []
        else ["\n  ".intercalate (model.scalars.map ScalarField.text)]) ++
      (if model.relations.map RelationField.text ++ model.inverses.map InverseField.text = [] then
        []
        else ["\n  ".intercalate
          (model.relations.map RelationField.text ++ model.inverses.map InverseField.text)]) := by
  rw [Model.sections, List.filterMap_cons, List.filterMap_cons, List.filterMap_nil]
  simp only [List.isEmpty_iff, List.map_eq_nil_iff]
  split <;> split <;> simp_all

/-- The first section of a model may have further lines. -/
theorem hasLines_sections {more : List (List Char)} {base text : String}
    (h : HasLines more ("  " ++ base) ("  " ++ text)) (others : List String) :
    HasLines more ("  " ++ "\n\n  ".intercalate (base :: others))
      ("  " ++ "\n\n  ".intercalate (text :: others)) := by
  cases others with
  | nil =>
      rw [String.intercalate_singleton, String.intercalate_singleton]
      exact h
  | cons other rest =>
      have hblank : "\n\n  " = "\n" ++ "\n  " := by decide
      have hsection := h.lineFeed (HasLines.refl ("\n  " ++ "\n\n  ".intercalate (other :: rest)))
      rw [String.intercalate_cons_cons, String.intercalate_cons_cons]
      rw [List.append_nil] at hsection
      simpa only [hblank, ← String.append_assoc] using hsection

theorem hasLines_model (provider : Option String) (schema : Schema) (table : Table) :
    HasLines (table.columns.flatMap noteLines)
      (model (commentOptions false provider) schema table).value.text
      (model (commentOptions true provider) schema table).value.text := by
  have hrelations : (model (commentOptions true provider) schema table).value.relations =
      (model (commentOptions false provider) schema table).value.relations := by
    rw [relations_model, relations_model]
  have hinverses : (model (commentOptions true provider) schema table).value.inverses =
      (model (commentOptions false provider) schema table).value.inverses := rfl
  have hname : ∀ options, (model options schema table).value.name = Naming.className table.name :=
    fun _ => rfl
  -- what is between the braces has the lines of the notes
  have hbody : HasLines (table.columns.flatMap noteLines)
      ("  " ++ "\n\n  ".intercalate
        (model (commentOptions false provider) schema table).value.sections)
      ("  " ++ "\n\n  ".intercalate
        (model (commentOptions true provider) schema table).value.sections) := by
    rw [sections_eq, sections_eq, hrelations, hinverses, scalars_eq_map, scalars_eq_map]
    rw [← flatMap_fieldSources]
    cases fieldSources table with
    | nil => exact HasLines.refl _
    | cons source rest =>
        have hne : ∀ f : Option Column → ScalarField, (source :: rest).map f ≠ [] := by simp
        rw [if_neg (hne _), if_neg (hne _)]
        refine hasLines_sections ?_ _
        rw [List.map_map, List.map_map]
        exact HasLines.indented (hasLines_fieldOf provider (isJunction table)) source rest
  have hopen : " \x7b\n  " = " \x7b" ++ "\n" ++ "  " := by decide
  have hclose : "\n\x7d" = "\n" ++ "\x7d" := by decide
  have htext := ((HasLines.refl ("model " ++ Naming.className table.name ++ " \x7b")).lineFeed
    hbody).lineFeed (HasLines.refl "\x7d")
  rw [List.append_nil, List.nil_append] at htext
  rw [Model.text, Model.text, hname, hname, hopen, hclose]
  simpa only [← String.append_assoc] using htext

/-! ### Files -/

/-- The part of a file in front of its models, but for its first line. -/
def preamble (provider : String) : String :=
  "  provider = \"prisma-client-js\"\n\x7d\n\n" ++ "datasource db \x7b\n  provider = \"" ++
    provider ++
    "\"\n" ++ "  url      = env(\"DATABASE_URL\")\n\x7d\n"

theorem fileText_eq (provider : String) (models : List Model) :
    fileText provider models =
      "generator client \x7b" ++ "\n" ++
        (preamble provider ++ "\n" ++ "\n\n".intercalate (models.map Model.text) ++ "\n" ++
          "") := by
  have hfirst : "generator client \x7b\n  provider = \"prisma-client-js\"\n\x7d\n\n" =
      "generator client \x7b" ++ "\n" ++ "  provider = \"prisma-client-js\"\n\x7d\n\n" := by decide
  have hlast : "  url      = env(\"DATABASE_URL\")\n\x7d\n\n" =
      "  url      = env(\"DATABASE_URL\")\n\x7d\n" ++ "\n" := by decide
  -- the texts are put together in another way, whatever they are
  have hassoc : ∀ {first line rest last ending : String} (data name address text : String),
      first = line ++ "\n" ++ rest → last = ending ++ "\n" →
      first ++ data ++ name ++ address ++ last ++ text ++ "\n" =
        line ++ "\n" ++ (rest ++ data ++ name ++ address ++ ending ++ "\n" ++ text ++ "\n" ++
          "") := by
    rintro _ line rest _ ending data name address text rfl rfl
    rw [String.append_empty]
    simp only [String.append_assoc]
  exact hassoc _ _ _ _ hfirst hlast

theorem hasLines_file (provider : Option String) (schema : Schema) :
    HasLines (schema.tables.flatMap fun table => table.columns.flatMap noteLines)
      (file (commentOptions false provider) schema).value
      (file (commentOptions true provider) schema).value := by
  have hprovider : Prisma.provider (commentOptions true provider) schema =
      Prisma.provider (commentOptions false provider) schema := rfl
  have hmodels := HasLines.paragraphs (hasLines_model provider schema) schema.tables
  have hfile := (HasLines.refl "generator client \x7b").lineFeed
    (((HasLines.refl (preamble
      (Prisma.provider (commentOptions false provider) schema).value)).lineFeed
      hmodels).lineFeed (HasLines.refl ""))
  rw [List.append_nil, List.nil_append, List.nil_append] at hfile
  rw [file_value, file_value, hprovider, fileText_eq, fileText_eq, models_value, models_value,
    List.map_map, List.map_map]
  exact hfile

/-- The first line of a file is no comment. -/
theorem exists_line_file (options : GeneratorOptions) (schema : Schema) :
    ∃ line ∈ Text.lines (file options schema).value.toList, Text.isCommentLine line = false := by
  refine ⟨"generator client \x7b".toList, ?_, by decide⟩
  have hfeed : '\n' ∉ "generator client \x7b".toList := by decide
  rw [file_value, fileText_eq, String.toList_append, String.toList_append, List.append_assoc]
  exact (Text.lines_append hfeed _).symm ▸ List.mem_cons_self

/-- **Notes in a schema file.**  Taking away all comment lines of the file with comments gives the
file without them just if that has no comment lines itself, and each line of a note behind its first
one is a comment. -/
theorem withoutCommentLines_file_iff (provider : Option String) (schema : Schema) :
    Text.withoutCommentLines (file (commentOptions true provider) schema).value.toList =
        (file (commentOptions false provider) schema).value.toList ↔
      (∀ line ∈ Text.lines (file (commentOptions false provider) schema).value.toList,
        Text.isCommentLine line = false) ∧
      ∀ table ∈ schema.tables, ∀ column ∈ table.columns, ∀ note ∈ column.note,
        Text.IsLineNote note := by
  rw [Text.withoutCommentLines_eq_iff (exists_line_file _ schema),
    (hasLines_file provider schema).filter_eq_iff]
  refine and_congr ?_ ?_
  · simp only [Bool.not_eq_true']
  · simp only [List.mem_flatMap, forall_exists_index, and_imp]
    constructor
    · intro h table htable column hcolumn note hnote
      rw [← Text.isLineNote_iff]
      intro line hline
      have hlines : noteLines column = Text.lines ("  /// ".toList ++ note.toList) := by
        rw [noteLines, Option.mem_def.mp hnote]
      simpa using h line table htable column hcolumn (hlines ▸ hline)
    · intro h line table htable column hcolumn hline
      rw [noteLines] at hline
      split at hline
      · rename_i note hnote
        rw [Text.isLineNote_iff.mpr (h table htable column hcolumn note hnote) line hline,
          Bool.not_true]
      · contradiction

end Prisma

end Dbml
