import Dbml.Proofs.Source.Grammar

/-!
# The header of a relation

A relation may have a name and a colon in front of its two ends, and its ends may have qualifiers.
Of these parts two are told apart by what comes next alone: a name stands in front of a colon or in
front of another name, and the first name of an end in front of a dot.  That is enough whatever the
names are, so that a relation is read as it is written.

* `WrittenRelation.States`: what the words of a relation say, settings apart;
* `relation?_of_settings`: it is read with its settings, which leave those parts as they are;
* `relation_header_unambiguous`: colon, keyword, quotes and qualifiers do not matter to it, and no
  other relation has the same tokens.
-/

namespace Dbml.Source

namespace WrittenRelation

/-- The relation that is read has the name, the ends and the operator of the written one. -/
structure States (written : WrittenRelation) (named : NamedRelation) : Prop where
  name : named.name = written.name.bind Token.name?
  source : named.relation.source = written.source.endpoint
  cardinality : named.relation.cardinality = written.op.cardinality
  target : named.relation.target = written.target.endpoint

/-- The relations have the same name, the same ends and the same operator.  They may differ in the
qualifiers of their ends, in the colon, and in whether and how their words are quoted. -/
structure SaysSame (written other : WrittenRelation) : Prop where
  name : other.name.bind Token.name? = written.name.bind Token.name?
  source : other.source.endpoint = written.source.endpoint
  op : other.op = written.op
  target : other.target.endpoint = written.target.endpoint

variable {written other : WrittenRelation} {settings more : List Token}

theorem states_relation (written : WrittenRelation) (settings : List Token) :
    written.States (written.relation settings) := by
  obtain ⟨hsource, htarget, hcardinality⟩ :=
    Wording.ends_foldl_applyRelationSetting (takeSettings settings).1
      (Wording.bare written.source written.op written.target)
  exact ⟨rfl, hsource, hcardinality, htarget⟩

/-- A relation is made from what its words say and from its settings. -/
theorem SaysSame.relation_eq (h : written.SaysSame other) (settings : List Token) :
    other.relation settings = written.relation settings := by
  obtain ⟨hname, hsource, hop, htarget⟩ := h
  rw [relation, relation, Wording.bare, Wording.bare, hname, hsource, hop, htarget]

theorem op_injective {op other : RelationOp} (h : op.cardinality = other.cardinality) :
    op = other := by
  cases op <;> cases other <;> first | rfl | contradiction

theorem SaysSame.of_states {named : NamedRelation} (hwritten : written.States named)
    (hother : other.States named) : written.SaysSame other where
  name := hother.name.symm.trans hwritten.name
  source := hother.source.symm.trans hwritten.source
  op := op_injective (hother.cardinality.symm.trans hwritten.cardinality)
  target := hother.target.symm.trans hwritten.target

theorem relation?_of_settings (written : WrittenRelation) (hsettings : IsSettings settings) :
    relation? (written.tokens settings) = some (written.relation settings) :=
  written.relation?_tokens hsettings.head?_ne_dot

/-- **Headers of relations are unambiguous.**  Whatever its names are, with a name of its own or
without, with a colon or without, and with any settings, a relation is read as just what it says:
its name, the last two names of each end, and its operator.  A relation that says the same in other
words is read as the same, and one that has the same tokens says the same and has the same
settings. -/
theorem relation_header_unambiguous (written : WrittenRelation) {settings : List Token}
    (hsettings : IsSettings settings) :
    ∃ named, relation? (written.tokens settings) = some named ∧ written.States named ∧
      (∀ other : WrittenRelation, written.SaysSame other →
        relation? (other.tokens settings) = some named) ∧
      ∀ (other : WrittenRelation) (more : List Token), IsSettings more →
        other.tokens more = written.tokens settings → written.SaysSame other ∧ more = settings := by
  refine ⟨written.relation settings, written.relation?_of_settings hsettings,
    written.states_relation settings, ?_, ?_⟩
  · intro other hsame
    rw [other.relation?_of_settings hsettings, hsame.relation_eq]
  · intro other more hmore htokens
    have hread : some (other.relation more) = some (written.relation settings) := by
      rw [← other.relation?_of_settings hmore, ← written.relation?_of_settings hsettings, htokens]
    have hother : other.States (written.relation settings) := by
      rw [← Option.some.inj hread]
      exact other.states_relation more
    refine ⟨.of_states (written.states_relation settings) hother, ?_⟩
    exact rest_eq hmore.head?_ne_dot hsettings.head?_ne_dot htokens

/-- A relation all of whose names are keywords: in front of its settings it reads
`REF ref table.as.note <> ref.project.'ref'`. -/
def keywordRelation : WrittenRelation where
  keyword := .ident "REF"
  name := some (.ident "ref")
  hasColon := false
  source := ⟨⟨"as", "note"⟩, [.ident "table"], .ident "as", .ident "note", by simp [Token.name?],
    rfl, rfl⟩
  op := .manyToMany
  target := ⟨⟨"project", "ref"⟩, [.ident "ref"], .ident "project",
    .str "ref", by simp [Token.name?], rfl, rfl⟩
  isKeyword := by decide
  isName := by simp [Token.name?]

/-- The same with other qualifiers, with a colon and with other quotes:
`ref 'ref': public.as.note <> main.public.project.ref`. -/
def quotedRelation : WrittenRelation where
  keyword := .ident "ref"
  name := some (.str "ref")
  hasColon := true
  source := ⟨⟨"as", "note"⟩, [.ident "public"], .ident "as", .ident "note", by simp [Token.name?],
    rfl, rfl⟩
  op := .manyToMany
  target := ⟨⟨"project", "ref"⟩, [.ident "main", .ident "public"], .ident "project", .ident "ref",
    by simp [Token.name?], rfl, rfl⟩
  isKeyword := by decide
  isName := by simp [Token.name?]

/-- Keywords for names are names, and both relations are read as the same. -/
theorem relation_header_unambiguous_of_keywords :
    IsSettings [.leftBracket, .ident "delete", .colon, .ident "cascade", .rightBracket] ∧
      ∃ named,
        relation? (keywordRelation.tokens
          [.leftBracket, .ident "delete", .colon, .ident "cascade", .rightBracket]) = some named ∧
        relation? (quotedRelation.tokens
          [.leftBracket, .ident "delete", .colon, .ident "cascade", .rightBracket]) = some named ∧
        named.name = some "ref" ∧ named.relation.source = ⟨"as", "note"⟩ ∧
        named.relation.target = ⟨"project", "ref"⟩ ∧ named.relation.cardinality = .manyToMany := by
  have hinner : Balanced .leftBracket .rightBracket 0 [.ident "delete", .colon,
      .ident "cascade"] := by
    simp [balanced_cons_of_ne, balanced_nil]
  have hsettings : IsSettings [.leftBracket, .ident "delete", .colon, .ident "cascade",
    .rightBracket] :=
    .inr ⟨_, hinner, rfl⟩
  obtain ⟨named, hread, hstates, hsame, -⟩ := relation_header_unambiguous keywordRelation hsettings
  exact ⟨hsettings, named, hread, hsame quotedRelation ⟨rfl, rfl, rfl, rfl⟩, hstates.name,
    hstates.source, hstates.target, hstates.cardinality⟩

end WrittenRelation

end Dbml.Source
