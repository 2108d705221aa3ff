import Dbml.Proofs.Scan.Replacement
import Dbml.Proofs.Source.Writer

/-!
# Relations as they are stated

A relation is stated by the tokens of two endpoints with an operator between them.  Around these
come a keyword, perhaps a name, and settings (`Wording`), which say nothing about the ends:
relations in the same words that join the same columns by `<` and, with the ends exchanged, by `>`
are mirror images.

* `endpoint?_tokens`: the tokens of an endpoint are read as that endpoint, whatever follows but a
  dot;
* `relation?_tokens`: the tokens of a relation are read as that relation;
* `mirrored_relation`: the mirror image of a relation in the same words.
-/

namespace Dbml

/-! ### Mirror images -/

/-- The cardinality as seen from the other end. -/
def Cardinality.mirrored (c : Cardinality) : Cardinality :=
  ⟨c.target, c.source⟩

/-- The relation as seen from its other end. -/
def Relation.mirrored (relation : Relation) : Relation :=
  { relation with
    source := relation.target
    target := relation.source
    cardinality := relation.cardinality.mirrored }

/-- The relation as seen from its other end, with its name. -/
def NamedRelation.mirrored (named : NamedRelation) : NamedRelation :=
  { named with relation := named.relation.mirrored }

namespace Source

variable {settings : List Token}

/-! ### Endpoints -/

/-- An endpoint as it is written: the names of its table and its column, with qualifiers in
front. -/
structure WrittenEndpoint where
  endpoint : Endpoint
  qualifiers : List Token
  table : Token
  column : Token
  isName : ∀ token ∈ qualifiers, token.name?.isSome = true
  table_name : table.name? = some endpoint.table
  column_name : column.name? = some endpoint.column

namespace WrittenEndpoint

/-- The names with dots between them. -/
def tokens (written : WrittenEndpoint) : List Token :=
  written.qualifiers.flatMap (fun token => [token, .dot]) ++ [written.table, .dot, written.column]

theorem qualifiedName?_name {token : Token} {name : String} (h : token.name? = some name)
    {rest : List Token} (hrest : rest.head? ≠ some .dot) :
    qualifiedName? (token :: rest) = some ([name], rest) := by
  cases rest with
  | nil => simp [qualifiedName?, h]
  | cons next rest =>
      have hnext : next ≠ .dot := fun hdot => hrest (congrArg some hdot)
      cases next <;> first | contradiction | simp [qualifiedName?, h]

theorem qualifiedName?_dot {token : Token} {name : String} (h : token.name? = some name)
    {rest more : List Token} {names : List String}
    (hrest : qualifiedName? rest = some (names, more)) :
    qualifiedName? (token :: .dot :: rest) = some (name :: names, more) := by
  simp [qualifiedName?, h, hrest]

/-- Qualifiers come in front of the other names. -/
theorem qualifiedName?_qualifiers {qualifiers : List Token}
    (h : ∀ token ∈ qualifiers, token.name?.isSome = true) {rest more : List Token}
    {names : List String} (hrest : qualifiedName? rest = some (names, more)) :
    qualifiedName? (qualifiers.flatMap (fun token => [token, .dot]) ++ rest) =
      some (qualifiers.filterMap Token.name? ++ names, more) := by
  induction qualifiers with
  | nil => exact hrest
  | cons token others ih =>
      obtain ⟨name, hname⟩ := Option.isSome_iff_exists.mp (h token List.mem_cons_self)
      have hothers := ih fun other hother => h other (List.mem_cons_of_mem _ hother)
      rw [List.filterMap_cons_some hname]
      exact qualifiedName?_dot hname hothers

theorem endpoint?_tokens (written : WrittenEndpoint) {rest : List Token}
    (hrest : rest.head? ≠ some .dot) :
    endpoint? (written.tokens ++ rest) = some (written.endpoint, rest) := by
  have hends : qualifiedName? (written.table :: .dot :: written.column :: rest) =
      some ([written.endpoint.table, written.endpoint.column], rest) :=
    qualifiedName?_dot written.table_name (qualifiedName?_name written.column_name hrest)
  have hnames : qualifiedName? (written.tokens ++ rest) =
      some (written.qualifiers.filterMap Token.name? ++
        [written.endpoint.table, written.endpoint.column], rest) := by
    rw [tokens, List.append_assoc]
    exact qualifiedName?_qualifiers written.isName hends
  rw [endpoint?, hnames]
  simp

theorem exists_tokens (written : WrittenEndpoint) :
    ∃ token rest, written.tokens = token :: rest ∧ token.name?.isSome = true := by
  cases hqualifiers : written.qualifiers with
  | nil =>
      refine ⟨written.table, [.dot, written.column], ?_, ?_⟩
      · rw [tokens, hqualifiers]
        rfl
      · rw [written.table_name, Option.isSome_some]
  | cons token others =>
      refine ⟨token, .dot :: (others.flatMap (fun token => [token, .dot]) ++
        [written.table, .dot, written.column]), ?_, ?_⟩
      · rw [tokens, hqualifiers]
        rfl
      · exact written.isName token (hqualifiers ▸ List.mem_cons_self)

theorem getLast?_tokens (written : WrittenEndpoint) :
    written.tokens.getLast? = some written.column := by
  simp [tokens]

end WrittenEndpoint

/-! ### Statements -/

/-- The words around the ends of a relation: the keyword, its name if it has one, and its
settings. -/
structure Wording where
  keyword : Token
  name : Option Token
  settings : List Token
  isKeyword : keyword.isKeyword "ref" = true
  isName : ∀ token ∈ name, token.name?.isSome = true
  settings_head : settings.head? ≠ some .dot
  settings_last : settings.getLast? ≠ some .leftBrace

namespace Wording

/-- The statement of a relation: `Ref name: a.x < b.y [settings]`. -/
def tokens (wording : Wording) (source : WrittenEndpoint) (op : RelationOp)
    (target : WrittenEndpoint) : List Token :=
  wording.keyword :: (wording.name.toList ++ .colon ::
    (source.tokens ++ (opTokens op ++ (target.tokens ++ wording.settings))))

/-- The relation between two ends without any settings. -/
def bare (source : WrittenEndpoint) (op : RelationOp) (target : WrittenEndpoint) : Relation where
  source := source.endpoint
  target := target.endpoint
  cardinality := op.cardinality

/-- The relation that is stated. -/
def relation (wording : Wording) (source : WrittenEndpoint) (op : RelationOp)
    (target : WrittenEndpoint) :
    NamedRelation where
  relation := (takeSettings wording.settings).1.foldl applyRelationSetting (bare source op target)
  name := wording.name.bind Token.name?

variable {wording : Wording} {source target : WrittenEndpoint} {op : RelationOp}

theorem takeRelationName_name (wording : Wording) (rest : List Token) :
    takeRelationName (wording.name.toList ++ .colon :: rest) =
      (wording.name.bind Token.name?, rest) := by
  cases hname : wording.name with
  | none => rfl
  | some token =>
      obtain ⟨name, htoken⟩ := Option.isSome_iff_exists.mp (wording.isName token hname)
      cases token with
      | ident text => rfl
      | str text => rfl
      | _ => contradiction

/-- An operator is read from its tokens, unless the next one belongs to it. -/
theorem relationOp?_opTokens (op : RelationOp) {rest : List Token}
    (hrest : rest.head? ≠ some .greater) :
    relationOp? (opTokens op ++ rest) = some (op, rest) := by
  cases op with
  | oneToMany =>
      cases rest with
      | nil => rfl
      | cons next rest =>
          have hnext : next ≠ .greater := fun hgreater => hrest (congrArg some hgreater)
          cases next <;> first | rfl | contradiction
  | _ => rfl

theorem relation?_tokens (wording : Wording) (source : WrittenEndpoint) (op : RelationOp)
    (target : WrittenEndpoint) :
    relation? (wording.tokens source op target) = some (wording.relation source op target) := by
  obtain ⟨token, rest, htarget, htoken⟩ := target.exists_tokens
  have hgreater : (target.tokens ++ wording.settings).head? ≠ some .greater := by
    rw [htarget]
    rintro ⟨⟩
    contradiction
  have hdot : (opTokens op ++ (target.tokens ++ wording.settings)).head? ≠ some .dot := by
    cases op <;> simp [opTokens]
  rw [tokens, relation?, if_pos wording.isKeyword, takeRelationName_name]
  simp only [source.endpoint?_tokens hdot, Option.bind_eq_bind, Option.bind_some,
    relationOp?_opTokens op hgreater, target.endpoint?_tokens wording.settings_head]
  rfl

theorem getLast?_tokens (wording : Wording) (source : WrittenEndpoint) (op : RelationOp)
    (target : WrittenEndpoint) : (wording.tokens source op target).getLast? ≠ some .leftBrace := by
  have hsplit : wording.tokens source op target =
      (wording.keyword :: (wording.name.toList ++ .colon :: (source.tokens ++ opTokens op))) ++
        (target.tokens ++ wording.settings) := by
    simp [tokens]
  rw [hsplit, List.getLast?_append, List.getLast?_append, target.getLast?_tokens]
  cases hlast : wording.settings.getLast? with
  | some token =>
      have hsettings := wording.settings_last
      rw [hlast] at hsettings
      exact hsettings
  | none =>
      have hname : target.column ≠ .leftBrace := by
        intro hbrace
        have hcolumn := target.column_name
        rw [hbrace] at hcolumn
        contradiction
      simpa using hname

theorem statesRelation (wording : Wording) (source : WrittenEndpoint) (op : RelationOp)
    (target : WrittenEndpoint) :
    Surroundings.StatesRelation (wording.tokens source op target)
      (wording.relation source op target) :=
  ⟨wording.relation?_tokens source op target, wording.getLast?_tokens source op target⟩

/-! ### Settings -/

/-- Settings are made in the same way whatever the relation joins, and in whatever direction. -/
theorem foldl_applyRelationSetting_comm {g : Relation → Relation}
    (hdelete : ∀ r action, g { r with onDelete := action } = { g r with onDelete := action })
    (hupdate : ∀ r action, g { r with onUpdate := action } = { g r with onUpdate := action })
    (items : List (List Token)) (relation : Relation) :
    items.foldl applyRelationSetting (g relation) =
      g (items.foldl applyRelationSetting relation) := by
  induction items generalizing relation with
  | nil => rfl
  | cons item rest ih =>
      have hitem : applyRelationSetting (g relation) item =
          g (applyRelationSetting relation item) := by
        unfold applyRelationSetting
        split
        · dsimp only
          split
          · exact (hdelete _ _).symm
          · exact (hupdate _ _).symm
          · rfl
        · rfl
      rw [List.foldl_cons, List.foldl_cons, hitem, ih]

/-- Settings leave the ends of a relation and its cardinality as they are. -/
theorem ends_foldl_applyRelationSetting (items : List (List Token)) (relation : Relation) :
    (items.foldl applyRelationSetting relation).source = relation.source ∧
      (items.foldl applyRelationSetting relation).target = relation.target ∧
      (items.foldl applyRelationSetting relation).cardinality = relation.cardinality := by
  let joining (other : Relation) : Relation :=
    { other with
      source := relation.source, target := relation.target, cardinality := relation.cardinality }
  have hjoining : items.foldl applyRelationSetting relation =
      joining (items.foldl applyRelationSetting relation) :=
    foldl_applyRelationSetting_comm (g := joining) (fun _ _ => rfl) (fun _ _ => rfl) items relation
  exact ⟨(congrArg Relation.source hjoining).trans rfl,
    (congrArg Relation.target hjoining).trans rfl,
    (congrArg Relation.cardinality hjoining).trans rfl⟩

theorem relation_ends (wording : Wording) (source : WrittenEndpoint) (op : RelationOp)
    (target : WrittenEndpoint) :
    (wording.relation source op target).relation.source = source.endpoint ∧
      (wording.relation source op target).relation.target = target.endpoint ∧
      (wording.relation source op target).relation.cardinality = op.cardinality :=
  ends_foldl_applyRelationSetting _ (bare source op target)

theorem relation_op (wording : Wording) (source : WrittenEndpoint) (op other : RelationOp)
    (target : WrittenEndpoint) :
    (wording.relation source op target).relation =
      { (wording.relation source other target).relation with cardinality := op.cardinality } :=
  foldl_applyRelationSetting_comm (g := fun relation =>
    { relation with cardinality := op.cardinality })
    (fun _ _ => rfl) (fun _ _ => rfl) _ (bare source other target)

/-- A relation in the same words with its ends exchanged. -/
theorem mirrored_relation (wording : Wording) (source target : WrittenEndpoint) :
    wording.relation target .manyToOne source =
      (wording.relation source .oneToMany target).mirrored := by
  have hmirrored : (wording.relation target .manyToOne source).relation =
      (wording.relation source .oneToMany target).relation.mirrored :=
    foldl_applyRelationSetting_comm (g := Relation.mirrored) (fun _ _ => rfl) (fun _ _ => rfl) _
      (bare source .oneToMany target)
  rw [NamedRelation.mirrored, ← hmirrored]
  rfl

end Wording

end Source

end Dbml
