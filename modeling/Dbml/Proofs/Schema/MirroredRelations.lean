import Dbml.Proofs.Schema.Rendering
import Dbml.Proofs.Source.StatedRelations

/-!
# Relations stated from either end

`a.x < b.y` and `b.y > a.x` say the same of rows, but each puts its foreign key where it begins.

* `parse_of_relation`: the schema of a source, with a relation in it that is stated outside of all
  blocks;
* `convert_congr_of_relation`: sources that differ in such a relation have the same files if their
  schemas are read the same.

`one_to_many_from_either_end` says that the operator alone makes no difference to entities and
models, and when it makes none to exchange the ends as well; `one_to_many_begins_where_it_is_stated`
that it does make one where the columns have no foreign keys.
-/

namespace Dbml

open Parsing Linking Source

variable {mode : Mode} {around : Surroundings} {statement other : List Token}
  {source changed : List Char}
  {named first second : NamedRelation}

/-! ### Sources that differ in a relation -/

theorem parse_of_relation (h : around.Hold statement source) (htop : around.IsTopLevel mode)
    (hstates : Surroundings.StatesRelation statement named) :
    (parse mode source).result? =
      (around.rest? mode).map fun (earlier, scan) =>
        (link scan.schema (earlier ++ named :: scan.relations)).value := by
  rw [parse, result?_bind, Surroundings.scan_of_relation h htop hstates]
  cases around.rest? mode with
  | none => rfl
  | some rest => rfl

theorem convert_result? (mode : Mode) (options : GeneratorOptions) (format : OutputFormat)
    (source : List Char) :
    (convert mode options format source).result? =
      (parse mode source).result?.map fun schema => (render options format schema).value := by
  rw [convert, result?_bind]
  cases (parse mode source).result? <;> rfl

/-- Schemas that are read the same have the same files. -/
theorem convert_congr_of_relation (hsource : around.Hold statement source)
    (hchanged : around.Hold other changed) (htop : around.IsTopLevel mode)
    (hfirst : Surroundings.StatesRelation statement first)
    (hsecond : Surroundings.StatesRelation other second)
    (hlink : ∀ earlier scan, around.rest? mode = some (earlier, scan) →
      (link scan.schema (earlier ++ first :: scan.relations)).value.asKeys =
        (link scan.schema (earlier ++ second :: scan.relations)).value.asKeys)
    (options : GeneratorOptions) {format : OutputFormat} (hformat : format ≠ .json) :
    (convert mode options format source).result? =
      (convert mode options format changed).result? := by
  rw [convert_result?, convert_result?, parse_of_relation hsource htop hfirst,
    parse_of_relation hchanged htop hsecond]
  cases hrest : around.rest? mode with
  | none => rfl
  | some rest =>
      obtain ⟨earlier, scan⟩ := rest
      simp only [Option.map_some]
      rw [← render_asKeys options hformat, hlink earlier scan hrest, render_asKeys options hformat]

/-! ### Exchanging the ends -/

section Mirrored

variable {schema : Schema} {earlier later : List NamedRelation} {relation : Relation}
  {endpoint : Endpoint}

theorem asKey_mirrored (hcardinality : relation.cardinality = .oneToMany)
    (hends : relation.source = relation.target) : relation.mirrored.asKey = relation.asKey := by
  obtain ⟨source, target, cardinality, _, _⟩ := relation
  obtain rfl : cardinality = .oneToMany := hcardinality
  obtain rfl : source = target := hends
  rfl

theorem not_manyToMany (hcardinality : named.relation.cardinality = .oneToMany) :
    named.relation.isManyToMany = false ∧ named.mirrored.relation.isManyToMany = false := by
  have hmirrored : named.mirrored.relation.cardinality = .manyToOne :=
    congrArg Cardinality.mirrored hcardinality
  rw [Relation.isManyToMany, Relation.isManyToMany, hcardinality, hmirrored]
  decide

/-- Where both ends of a relation are one column, or have foreign keys before, it may begin at
either. -/
def BeginsAtEither (schema : Schema) (earlier later : List NamedRelation)
    (relation : Relation) : Prop :=
  relation.source = relation.target ∨
    HasKeyBefore schema earlier later relation.source ∧
      HasKeyBefore schema earlier later relation.target

theorem link_mirrored (hcardinality : named.relation.cardinality = .oneToMany)
    (h : BeginsAtEither schema earlier later (resolveRelation schema.tables named).relation) :
    (link schema (earlier ++ named :: later)).value.asKeys =
      (link schema (earlier ++ named.mirrored :: later)).value.asKeys := by
  obtain ⟨hmany, hmirrored⟩ := not_manyToMany hcardinality
  rcases h with hends | ⟨hsource, htarget⟩
  · have hread : (resolveRelation schema.tables named).relation.mirrored.asKey =
        (resolveRelation schema.tables named).relation.asKey := asKey_mirrored hcardinality hends
    exact link_congr_of_asKey hmany hmirrored hread.symm
  · exact link_congr_of_hasKeyBefore hmany hmirrored hsource htarget

/-- With its ends exchanged a relation leaves them the same foreign keys just if it need not begin
at the one or the next relation from there says the same. -/
theorem reference?_link_mirrored (hcardinality : named.relation.cardinality = .oneToMany) :
    let stated := (resolveRelation schema.tables named).relation
    ∀ relation ∈ [stated, stated.mirrored],
      (((link schema (earlier ++ named :: later)).value.reference? relation.source).map
        Reference.asKey =
          ((link schema (earlier ++ named.mirrored :: later)).value.reference? relation.source).map
            Reference.asKey ↔
        stated.source = stated.target ∨ HasKeyBefore schema earlier later relation.source ∨
          ((keyRelations schema later).find? (·.source = relation.source)).map (·.reference.asKey) =
            some relation.reference.asKey) := by
  intro stated relation hrelation
  obtain ⟨hmany, hmirrored⟩ := not_manyToMany hcardinality
  by_cases hends : stated.source = stated.target
  · refine iff_of_true ?_ (.inl hends)
    rw [← Schema.reference?_asKeys, ← Schema.reference?_asKeys,
      link_mirrored hcardinality (.inl hends)]
  · rw [or_iff_right hends]
    rcases List.mem_pair.mp hrelation with rfl | rfl
    · exact reference?_link_iff hmany hmirrored rfl (Ne.symm hends)
    · rw [eq_comm]
      exact reference?_link_iff hmirrored hmany rfl hends

end Mirrored

/-- **One-to-many from either end.**  Let a source state `a.x < b.y` outside of all blocks, and let
two others state `a.x > b.y` and `b.y > a.x` in its place, in the same words.  The first of them has
the same entities and models as the source.  So has the second one if both ends are one column or
have foreign keys before.  In any case each relation puts its foreign key where it begins, unless
there is one before; so the two schemas have the same foreign key at an end just if it is the other
end too, has a foreign key before, or gets the same one from the next relation.  No other column is
concerned. -/
theorem one_to_many_from_either_end {turned mirrored : List Char} (wording : Wording)
    (a b : WrittenEndpoint) (htop : around.IsTopLevel mode)
    (hsource : around.Hold (wording.tokens a .oneToMany b) source)
    (hturned : around.Hold (wording.tokens a .manyToOne b) turned)
    (hmirrored : around.Hold (wording.tokens b .manyToOne a) mirrored) :
    (∀ options format, format ≠ .json →
      (convert mode options format source).result? = (convert mode options format turned).result?) ∧
    ((∀ earlier scan, around.rest? mode = some (earlier, scan) →
        BeginsAtEither scan.schema earlier scan.relations
          (resolveRelation scan.tables (wording.relation a .oneToMany b)).relation) →
      ∀ options format, format ≠ .json →
        (convert mode options format source).result? =
          (convert mode options format mirrored).result?) ∧
    ∀ earlier scan, around.rest? mode = some (earlier, scan) →
      let stated := (resolveRelation scan.tables (wording.relation a .oneToMany b)).relation
      (Source.scan mode source).outcome =
        .ok { scan with relations := earlier ++ wording.relation a .oneToMany b ::
          scan.relations } ∧
      ∃ schema changed, (parse mode source).outcome = .ok schema ∧
        (parse mode mirrored).outcome = .ok changed ∧
        (¬ HasKeyBefore scan.schema earlier scan.relations stated.source →
          schema.reference? stated.source = some stated.reference) ∧
        (¬ HasKeyBefore scan.schema earlier scan.relations stated.target →
          changed.reference? stated.target = some stated.mirrored.reference) ∧
        (∀ relation ∈ [stated, stated.mirrored],
          ((schema.reference? relation.source).map Reference.asKey =
              (changed.reference? relation.source).map Reference.asKey ↔
            stated.source = stated.target ∨
              HasKeyBefore scan.schema earlier scan.relations relation.source ∨
              ((keyRelations scan.schema scan.relations).find? (·.source = relation.source)).map
                  (·.reference.asKey) = some relation.reference.asKey)) ∧
        ∀ endpoint, endpoint ≠ stated.source → endpoint ≠ stated.target →
          schema.reference? endpoint = changed.reference? endpoint := by
  have hstates := wording.statesRelation a .oneToMany b
  have hcardinality : (wording.relation a .oneToMany b).relation.cardinality = .oneToMany :=
    (wording.relation_ends a .oneToMany b).2.2
  have hmirror : Surroundings.StatesRelation (wording.tokens b .manyToOne a)
      (wording.relation a .oneToMany b).mirrored :=
    wording.mirrored_relation a b ▸ wording.statesRelation b .manyToOne a
  obtain ⟨hmany, hother⟩ := not_manyToMany hcardinality
  refine ⟨fun options format hformat => ?_, fun h options format hformat =>
    ?_, fun earlier scan hrest => ?_⟩
  · refine convert_congr_of_relation hsource hturned htop hstates
      (wording.statesRelation a .manyToOne b) (fun earlier scan _ => ?_) options hformat
    have hturn : (wording.relation a .manyToOne b).relation.isManyToMany = false := by
      rw [Relation.isManyToMany, (wording.relation_ends a .manyToOne b).2.2]
      decide
    have hop := wording.relation_op a .manyToOne .oneToMany b
    refine link_congr_of_asKey hmany hturn ?_
    simp only [resolveRelation, Relation.asKey, hop, hcardinality]
    rfl
  · exact convert_congr_of_relation hsource hmirrored htop hstates hmirror
      (fun earlier scan hrest => link_mirrored hcardinality (h earlier scan hrest)) options hformat
  · intro stated
    have hscan : (Source.scan mode source).result? =
        some { scan with relations := earlier ++ wording.relation a .oneToMany b ::
          scan.relations } := by
      rw [Surroundings.scan_of_relation hsource htop hstates, hrest]
      rfl
    have hparse : ∀ {statement source named}, around.Hold statement source →
        Surroundings.StatesRelation statement named →
        (parse mode source).outcome =
          .ok (link scan.schema (earlier ++ named :: scan.relations)).value := by
      intro statement source named hhold hstates
      rw [← result?_eq_some, parse_of_relation hhold htop hstates, hrest]
      rfl
    refine ⟨result?_eq_some.mp hscan, _, _, hparse hsource hstates, hparse hmirrored hmirror,
      reference?_link_source hmany, reference?_link_source hother, fun relation hrelation => ?_,
      fun endpoint hne hne' => ?_⟩
    · exact reference?_link_mirrored hcardinality relation hrelation
    · exact reference?_link_of_ne hmany hother (Ne.symm hne) (Ne.symm hne')

/-! ### Relations on a line of their own -/

/-- The words of a relation with neither a name nor settings. -/
def plainWording : Wording where
  keyword := .ident "Ref"
  name := none
  settings := []
  isKeyword := by decide
  isName := by simp
  settings_head := by simp
  settings_last := by simp

/-- An endpoint without quotes and qualifiers. -/
def plainEndpoint (table column : String) : WrittenEndpoint where
  endpoint := ⟨table, column⟩
  qualifiers := []
  table := .ident table
  column := .ident column
  isName := by simp
  table_name := rfl
  column_name := rfl

/-- A text before the statement, which ends the source on a line of its own. -/
def behindText (text : List Char) : Surroundings where
  before := Text.lines text
  front := []
  back := []
  failure := none
  after := []

theorem hold_behindText {text line : List Char} (hline : '\n' ∉ line) {tokens : List Token}
    (htokens : Lexer.tokenize (Text.trim line) = (tokens, none))
    (hstatements : statements tokens = [statement]) :
    (behindText text).Hold statement (text ++ '\n' :: line) := by
  refine ⟨line, tokens, ?_, htokens, hstatements⟩
  rw [Text.lines, List.splitOn_append_cons_self, List.splitOn_eq_singleton hline]
  rfl

/-- Users with keys and posts with users, by foreign keys that are stated at their columns. -/
def keyedExample : List Char :=
  "Table u \x7b\nid int [ref: - k.id]\n\x7d\nTable p \x7b\nu int [ref: > u.id]\n\x7d".toList

/-- A relation between two columns that have foreign keys may begin at either. -/
theorem one_to_many_from_either_end_of_keyed_ends :
    (behindText keyedExample).IsTopLevel .strict ∧
    (behindText keyedExample).Hold
      (plainWording.tokens (plainEndpoint "u" "id") .oneToMany (plainEndpoint "p" "u"))
      (keyedExample ++ '\n' :: "Ref: u.id < p.u".toList) ∧
    (behindText keyedExample).Hold
      (plainWording.tokens (plainEndpoint "u" "id") .manyToOne (plainEndpoint "p" "u"))
      (keyedExample ++ '\n' :: "Ref: u.id > p.u".toList) ∧
    (behindText keyedExample).Hold
      (plainWording.tokens (plainEndpoint "p" "u") .manyToOne (plainEndpoint "u" "id"))
      (keyedExample ++ '\n' :: "Ref: p.u > u.id".toList) ∧
    (convert .strict {} .typeOrm (keyedExample ++ '\n' :: "Ref: u.id < p.u".toList)).result? =
      (convert .strict {} .typeOrm (keyedExample ++ '\n' :: "Ref: p.u > u.id".toList)).result? ∧
    (convert .strict {} .prisma (keyedExample ++ '\n' :: "Ref: u.id < p.u".toList)).result? =
      (convert .strict {} .prisma (keyedExample ++ '\n' :: "Ref: p.u > u.id".toList)).result? := by
  let scan : Scan :=
    { tables :=
        [{ name := "u"
           columns :=
            [{ name := "id", type := "int"
               reference := some ⟨"k", "id", some .oneToOne, none, none⟩ }] },
         { name := "p"
           columns :=
            [{ name := "u", type := "int"
               reference := some ⟨"u", "id", some .manyToOne, none, none⟩ }] }]
      relations :=
        [⟨⟨⟨"u", "id"⟩, ⟨"k", "id"⟩, .oneToOne, none, none⟩, none⟩,
         ⟨⟨⟨"p", "u"⟩, ⟨"u", "id"⟩, .manyToOne, none, none⟩, none⟩] }
  have hbefore : (behindText keyedExample).scanBefore? .strict = some scan := by
    with_unfolding_all rfl
  have htop : (behindText keyedExample).IsTopLevel .strict := by
    intro met hmet
    cases hbefore.symm.trans hmet
    rfl
  have hrest : (behindText keyedExample).rest? .strict =
      some (scan.relations, { scan with relations := [] }) := by
    rw [Surroundings.rest?, hbefore]
    rfl
  have hsource : (behindText keyedExample).Hold
      (plainWording.tokens (plainEndpoint "u" "id") .oneToMany (plainEndpoint "p" "u"))
      (keyedExample ++ '\n' :: "Ref: u.id < p.u".toList) :=
    hold_behindText (by decide) (by with_unfolding_all rfl) (by with_unfolding_all rfl)
  have hturned : (behindText keyedExample).Hold
      (plainWording.tokens (plainEndpoint "u" "id") .manyToOne (plainEndpoint "p" "u"))
      (keyedExample ++ '\n' :: "Ref: u.id > p.u".toList) :=
    hold_behindText (by decide) (by with_unfolding_all rfl) (by with_unfolding_all rfl)
  have hmirrored : (behindText keyedExample).Hold
      (plainWording.tokens (plainEndpoint "p" "u") .manyToOne (plainEndpoint "u" "id"))
      (keyedExample ++ '\n' :: "Ref: p.u > u.id".toList) :=
    hold_behindText (by decide) (by with_unfolding_all rfl) (by with_unfolding_all rfl)
  have hsame := (one_to_many_from_either_end plainWording _ _ htop hsource hturned
    hmirrored).2.1 <| by
    intro earlier met hmet
    cases hrest.symm.trans hmet
    exact .inr ⟨fun _ => .inl (by decide), fun _ => .inl (by decide)⟩
  exact ⟨htop, hsource, hturned, hmirrored, hsame {} .typeOrm (by decide),
    hsame {} .prisma (by decide)⟩

/-- Users and posts without foreign keys. -/
def unkeyedExample : List Char :=
  "Table u \x7b\nid int\n\x7d\nTable p \x7b\nu int\n\x7d".toList

/-- **A relation between columns without foreign keys may not begin at either.**  The one that
begins at the users makes them belong to the posts. -/
theorem one_to_many_begins_where_it_is_stated :
    (behindText unkeyedExample).IsTopLevel .strict ∧
    (behindText unkeyedExample).Hold
      (plainWording.tokens (plainEndpoint "u" "id") .oneToMany (plainEndpoint "p" "u"))
      (unkeyedExample ++ '\n' :: "Ref: u.id < p.u".toList) ∧
    (behindText unkeyedExample).Hold
      (plainWording.tokens (plainEndpoint "p" "u") .manyToOne (plainEndpoint "u" "id"))
      (unkeyedExample ++ '\n' :: "Ref: p.u > u.id".toList) ∧
    (convert .strict {} .typeOrm (unkeyedExample ++ '\n' :: "Ref: u.id < p.u".toList)).result? ≠
      (convert .strict {} .typeOrm (unkeyedExample ++ '\n' :: "Ref: p.u > u.id".toList)).result? ∧
    (convert .strict {} .prisma (unkeyedExample ++ '\n' :: "Ref: u.id < p.u".toList)).result? ≠
      (convert .strict {} .prisma
        (unkeyedExample ++ '\n' :: "Ref: p.u > u.id".toList)).result? := by
  let tables (ofUser ofPost : Option Reference) : List Table :=
    [{ name := "u", columns := [{ name := "id", type := "int", reference := ofUser }] },
     { name := "p", columns := [{ name := "u", type := "int", reference := ofPost }] }]
  have hbefore : (behindText unkeyedExample).scanBefore? .strict =
      some { tables := tables none none } := by
    with_unfolding_all rfl
  have hstated : (parse .strict (unkeyedExample ++ '\n' :: "Ref: u.id < p.u".toList)).result? =
      some
        { tables := tables (some ⟨"p", "u", some .oneToMany, none, none⟩) none
          relations := [⟨⟨"u", "id"⟩, ⟨"p", "u"⟩, .oneToMany, none, none⟩] } := by
    with_unfolding_all rfl
  have hmirrored : (parse .strict (unkeyedExample ++ '\n' :: "Ref: p.u > u.id".toList)).result? =
      some
        { tables := tables none (some ⟨"u", "id", some .manyToOne, none, none⟩)
          relations := [⟨⟨"p", "u"⟩, ⟨"u", "id"⟩, .manyToOne, none, none⟩] } := by
    with_unfolding_all rfl
  refine ⟨?_, ?_, ?_, ?_, ?_⟩
  · intro met hmet
    cases hbefore.symm.trans hmet
    rfl
  · exact hold_behindText (by decide) (by with_unfolding_all rfl) (by with_unfolding_all rfl)
  · exact hold_behindText (by decide) (by with_unfolding_all rfl) (by with_unfolding_all rfl)
  · rw [convert_result?, convert_result?, hstated, hmirrored]
    decide +kernel
  · rw [convert_result?, convert_result?, hstated, hmirrored]
    decide +kernel

end Dbml
