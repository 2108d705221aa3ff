import Dbml.Proofs.Source.Brackets
import Dbml.Proofs.Source.StatedRelations
import Dbml.Source.Column

/-!
# The grammar of statements

Columns and relations are read from the front of a statement.  This file writes down what they look
like and proves that just this is read, so that it can be told what becomes of the rest of a
statement.

* `WrittenColumn`: a name and a type, with the arguments of the type and the mark of an array where
  they are present; `WrittenRelation`: a keyword, a name and a colon where they are present, and two
  endpoints with an operator between them.  Both have a rest behind them, which is where settings
  stand;
* `column?_eq_some_nil_iff`: a column ends its statement if its rest is empty, or a group of
  settings, or one that is not closed;
* `relation?_isSome_iff`: a relation is read whatever its rest is, unless that begins with a dot;
* `getLast?_of_header`: the header of a table ends in an opening brace.
-/

namespace Dbml.Source

/-! ### Groups -/

/-- The tokens are two brackets with balanced tokens between them. -/
def IsGroup (opening closing : Token) (tokens : List Token) : Prop :=
  ∃ inner, Balanced opening closing 0 inner ∧ tokens = opening :: (inner ++ [closing])

/-- The tokens begin with a bracket that none of the others closes. -/
def IsUnclosed (opening closing : Token) (tokens : List Token) : Prop :=
  ∃ others, tokens = opening :: others ∧
    ∀ inner rest, Balanced opening closing 0 inner → others ≠ inner ++ closing :: rest

section Group

variable {opening closing : Token} {group rest : List Token}

theorem takeGroup?_append (hne : opening ≠ closing) (h : IsGroup opening closing group)
    (rest : List Token) : ∃ inner,
      takeGroup? opening closing (group ++ rest) = some (inner, rest) := by
  obtain ⟨inner, hinner, rfl⟩ := h
  refine ⟨inner, (takeGroup?_eq_some_iff hne).mpr ⟨?_, hinner⟩⟩
  simp

theorem exists_group_of_takeGroup? (hne : opening ≠ closing) {tokens inner : List Token}
    (h : takeGroup? opening closing tokens = some (inner, rest)) :
    ∃ group, IsGroup opening closing group ∧ tokens = group ++ rest := by
  obtain ⟨rfl, hinner⟩ := (takeGroup?_eq_some_iff hne).mp h
  exact ⟨opening :: (inner ++ [closing]), ⟨inner, hinner, rfl⟩, by simp⟩

theorem takeGroup?_eq_none_iff (hne : opening ≠ closing) {others : List Token} :
    takeGroup? opening closing (opening :: others) = none ↔
      IsUnclosed opening closing (opening :: others) := by
  rw [Option.eq_none_iff_forall_ne_some]
  constructor
  · intro hnone
    refine ⟨others, rfl, fun inner rest hinner htokens => hnone (inner, rest) ?_⟩
    exact (takeGroup?_eq_some_iff hne).mpr ⟨congrArg (opening :: ·) htokens, hinner⟩
  · rintro ⟨_, ⟨⟩, hunclosed⟩ ⟨inner, rest⟩ hsome
    obtain ⟨htokens, hinner⟩ := (takeGroup?_eq_some_iff hne).mp hsome
    exact hunclosed inner rest hinner (List.cons.inj htokens).2

theorem IsGroup.head? (h : IsGroup opening closing group) : group.head? = some opening := by
  obtain ⟨inner, -, rfl⟩ := h
  rfl

theorem IsUnclosed.head? (h : IsUnclosed opening closing group) : group.head? = some opening := by
  obtain ⟨others, rfl, -⟩ := h
  rfl

theorem IsUnclosed.not_isGroup (h : IsUnclosed opening closing group) :
    ¬ IsGroup opening closing group := by
  obtain ⟨others, rfl, hunclosed⟩ := h
  rintro ⟨inner, hinner, hgroup⟩
  exact hunclosed inner [] hinner (List.cons.inj hgroup).2

end Group

/-! ### Settings -/

/-- There are no settings, or a group of them. -/
def IsSettings (tokens : List Token) : Prop :=
  tokens = [] ∨ IsGroup .leftBracket .rightBracket tokens

/-- Settings begin with a bracket that is not closed. -/
def IsOpenSettings (tokens : List Token) : Prop :=
  IsUnclosed .leftBracket .rightBracket tokens

/-- Settings take up all tokens if there are none, if they are a group, or if this is not closed. -/
theorem takeSettings_rest_eq_nil_iff {tokens : List Token} :
    (takeSettings tokens).2 = [] ↔ IsSettings tokens ∨ IsOpenSettings tokens := by
  have hne : Token.leftBracket ≠ .rightBracket := by decide
  unfold takeSettings
  split
  · rename_i others
    cases hgroup : takeGroup? .leftBracket .rightBracket (.leftBracket :: others) with
    | none => exact iff_of_true rfl (.inr ((takeGroup?_eq_none_iff hne).mp hgroup))
    | some taken =>
        obtain ⟨inner, rest⟩ := taken
        obtain ⟨htokens, hinner⟩ := (takeGroup?_eq_some_iff hne).mp hgroup
        constructor
        · rintro rfl
          exact .inl (.inr ⟨inner, hinner, htokens⟩)
        · rintro ((hnil | hclosed) | hopen)
          · contradiction
          · obtain ⟨inner', htaken⟩ := takeGroup?_append hne hclosed []
            rw [List.append_nil, hgroup] at htaken
            cases htaken
            rfl
          · rw [(takeGroup?_eq_none_iff hne).mpr hopen] at hgroup
            contradiction
  · rename_i hhead
    constructor
    · intro hnil
      exact .inl (.inl hnil)
    · rintro ((hnil | hclosed) | hopen)
      · exact hnil
      · obtain ⟨inner, -, rfl⟩ := hclosed
        exact absurd rfl (hhead _)
      · obtain ⟨others, rfl, -⟩ := hopen
        exact absurd rfl (hhead _)

theorem takeSettings_of_open {tokens : List Token} (h : IsOpenSettings tokens) :
    takeSettings tokens = ([], []) := by
  have hnone := h
  obtain ⟨others, rfl, -⟩ := h
  rw [takeSettings, (takeGroup?_eq_none_iff (by decide)).mpr hnone]

theorem exists_settings (tokens : List Token) :
    ∃ settings dropped, IsSettings settings ∧ tokens = settings ++ dropped ∧
      (takeSettings tokens).1 = (takeSettings settings).1 := by
  have hne : Token.leftBracket ≠ .rightBracket := by decide
  unfold takeSettings
  split
  · rename_i others
    cases htaken : takeGroup? .leftBracket .rightBracket (.leftBracket :: others) with
    | none => exact ⟨[], _, .inl rfl, rfl, rfl⟩
    | some taken =>
        obtain ⟨inner, rest⟩ := taken
        obtain ⟨htokens, hinner⟩ := (takeGroup?_eq_some_iff hne).mp htaken
        have hgroup : takeGroup? .leftBracket .rightBracket
          (.leftBracket :: (inner ++ [.rightBracket])) =
            some (inner, []) := (takeGroup?_eq_some_iff hne).mpr ⟨rfl, hinner⟩
        refine ⟨.leftBracket :: (inner ++ [.rightBracket]), rest, .inr ⟨inner, hinner, rfl⟩, ?_, ?_⟩
        · simp [htokens]
        · simp only [hgroup]
  · exact ⟨[], tokens, .inl rfl, rfl, rfl⟩

/-- What begins with a group is settings only if it ends with the group. -/
theorem eq_nil_of_settings_append {settings group rest : List Token}
    (hsettings : IsSettings settings ∨ IsOpenSettings settings)
    (hgroup : IsGroup .leftBracket .rightBracket group) (hsplit : settings = group ++ rest) :
      rest = [] := by
  obtain ⟨inner, htaken⟩ := takeGroup?_append (by decide) hgroup rest
  have hall := takeSettings_rest_eq_nil_iff.mpr hsettings
  obtain ⟨others, hothers⟩ : ∃ others, group ++ rest = .leftBracket :: others := by
    obtain ⟨inner, -, rfl⟩ := hgroup
    exact ⟨_, rfl⟩
  rw [hothers] at htaken
  rwa [hsplit, hothers, takeSettings, htaken] at hall

/-! ### Columns -/

/-- A column as it is written, in front of its settings. -/
structure WrittenColumn where
  name : Token
  type : Token
  arguments : List Token
  mark : List Token
  isName : name.name?.isSome = true
  isType : type.name?.isSome = true
  isArguments : arguments = [] ∨ IsGroup .leftParen .rightParen arguments
  isMark : mark = [] ∨ mark = [.leftBracket, .rightBracket]

namespace WrittenColumn

/-- The column with its settings: `name type(arguments)[] [settings]`. -/
def tokens (written : WrittenColumn) (settings : List Token) : List Token :=
  written.name :: written.type :: (written.arguments ++ (written.mark ++ settings))

/-- Arguments are read off the front of what is no group of its own. -/
theorem typeWithArguments?_append (written : WrittenColumn) (name : String) :
    ∃ type, ∀ rest : List Token, rest.head? ≠ some .leftParen →
      typeWithArguments? name (written.arguments ++ rest) = some (type, rest) := by
  rcases written.isArguments with hnone | ⟨inner, hinner, hgroup⟩
  · refine ⟨name, fun rest hrest => ?_⟩
    rw [hnone, List.nil_append]
    unfold typeWithArguments?
    split
    · exact absurd rfl hrest
    · rfl
  · refine ⟨name ++ "(" ++ Token.render inner ++ ")", fun rest _ => ?_⟩
    have htaken : takeGroup? .leftParen .rightParen
      (.leftParen :: (inner ++ [.rightParen] ++ rest)) =
        some (inner, rest) := (takeGroup?_eq_some_iff (by decide)).mpr ⟨by simp, hinner⟩
    rw [hgroup, List.cons_append, typeWithArguments?, htaken]
    rfl

/-- The mark of an array is read off the front of the settings, which themselves may be empty and so
look like one. -/
theorem typeWithArrayMark_append (written : WrittenColumn) (type : String) (settings : List Token) :
    (typeWithArrayMark type (written.mark ++ settings)).2 = settings ∨
      settings = [.leftBracket, .rightBracket] ++
        (typeWithArrayMark type (written.mark ++ settings)).2 := by
  rcases written.isMark with hnone | hmark
  · rw [hnone, List.nil_append]
    unfold typeWithArrayMark
    split
    · exact .inr rfl
    · exact .inl rfl
  · rw [hmark]
    exact .inl rfl

theorem head?_mark_append (written : WrittenColumn) {settings : List Token}
    (hsettings : IsSettings settings ∨ IsOpenSettings settings) :
    (written.mark ++ settings).head? ≠ some .leftParen := by
  rcases written.isMark with hmark | hmark
  · rw [hmark, List.nil_append]
    rcases hsettings with (rfl | hclosed) | hopen
    · simp
    · rw [hclosed.head?]
      simp
    · rw [hopen.head?]
      simp
  · rw [hmark]
    simp

theorem takeSettings_typeWithArrayMark (written : WrittenColumn) (type : String)
    {settings : List Token} (hsettings : IsSettings settings ∨ IsOpenSettings settings) :
    (takeSettings (typeWithArrayMark type (written.mark ++ settings)).2).2 = [] := by
  rcases written.typeWithArrayMark_append type settings with hread | hread
  · rwa [hread, takeSettings_rest_eq_nil_iff]
  · rw [eq_nil_of_settings_append hsettings ⟨[], balanced_nil.mpr rfl, rfl⟩ hread]
    rfl

theorem typeWithArrayMark_of_open (written : WrittenColumn) (type : String) {settings : List Token}
    (hsettings : IsOpenSettings settings) :
    typeWithArrayMark type (written.mark ++ settings) =
      ((typeWithArrayMark type written.mark).1, settings) := by
  obtain ⟨others, rfl, hunclosed⟩ := hsettings
  rcases written.isMark with hmark | hmark
  · rw [hmark, List.nil_append]
    unfold typeWithArrayMark
    split
    · rename_i hempty
      exact absurd (List.cons.inj hempty).2 (hunclosed [] _ (balanced_nil.mpr rfl))
    · rfl
  · rw [hmark]
    rfl

theorem column?_tokens (written : WrittenColumn) {settings : List Token}
    (hsettings : IsSettings settings ∨ IsOpenSettings settings) :
    ∃ column, column? (written.tokens settings) = some (column, []) := by
  obtain ⟨name, hname⟩ := Option.isSome_iff_exists.mp written.isName
  obtain ⟨type, htype⟩ := Option.isSome_iff_exists.mp written.isType
  obtain ⟨typed, htyped⟩ := written.typeWithArguments?_append type
  have harguments := htyped _ (written.head?_mark_append hsettings)
  have hrest := written.takeSettings_typeWithArrayMark typed hsettings
  rw [tokens, column?]
  simp [hname, htype, harguments, hrest]

end WrittenColumn

/-- The tokens are a column with its settings, which are a group if there are any. -/
def IsColumn (tokens : List Token) : Prop :=
  ∃ (written : WrittenColumn) (settings : List Token),
    IsSettings settings ∧ tokens = written.tokens settings

/-- The tokens are a column with settings that are not closed. -/
def IsOpenColumn (tokens : List Token) : Prop :=
  ∃ (written : WrittenColumn) (settings : List Token),
    IsOpenSettings settings ∧ tokens = written.tokens settings

theorem exists_writtenColumn {nameToken typeToken : Token} {name type typed marked : String}
    {tokens behind settings : List Token} (hname : nameToken.name? = some name)
    (htype : typeToken.name? = some type)
    (harguments : typeWithArguments? type tokens = some (typed, behind))
    (hmark : typeWithArrayMark typed behind = (marked, settings)) :
    ∃ written : WrittenColumn, nameToken :: typeToken :: tokens = written.tokens settings := by
  obtain ⟨group, hgroup, htokens⟩ : ∃ group, (group = [] ∨ IsGroup .leftParen .rightParen group) ∧
      tokens = group ++ behind := by
    unfold typeWithArguments? at harguments
    split at harguments
    · obtain ⟨⟨inner, rest⟩, htaken, hrest⟩ := Option.bind_eq_some_iff.mp harguments
      cases hrest
      obtain ⟨group, hgroup, htokens⟩ := exists_group_of_takeGroup? (by decide) htaken
      exact ⟨group, .inr hgroup, htokens⟩
    · cases harguments
      exact ⟨[], .inl rfl, rfl⟩
  obtain ⟨mark, hmark, hbehind⟩ : ∃ mark, (mark = [] ∨ mark = [.leftBracket, .rightBracket]) ∧
      behind = mark ++ settings := by
    unfold typeWithArrayMark at hmark
    split at hmark
    · cases hmark
      exact ⟨_, .inr rfl, rfl⟩
    · cases hmark
      exact ⟨[], .inl rfl, rfl⟩
  refine ⟨⟨nameToken, typeToken, group, mark, ?_, ?_, hgroup, hmark⟩, ?_⟩
  · rw [hname, Option.isSome_some]
  · rw [htype, Option.isSome_some]
  · rw [WrittenColumn.tokens, htokens, hbehind]

/-- Of a column whose settings are not closed only what stands in front of them is read. -/
theorem IsOpenColumn.exists_isColumn {tokens : List Token} (hopen : IsOpenColumn tokens) :
    ∃ kept dropped, tokens = kept ++ dropped ∧ dropped ≠ [] ∧ IsColumn kept ∧
      column? tokens = column? kept := by
  obtain ⟨written, unclosed, hunclosed, rfl⟩ := hopen
  refine ⟨written.tokens [], unclosed, ?_, ?_, ⟨written, [], .inl rfl, rfl⟩, ?_⟩
  · simp [WrittenColumn.tokens]
  · rintro rfl
    cases hunclosed.head?
  · obtain ⟨name, hname⟩ := Option.isSome_iff_exists.mp written.isName
    obtain ⟨type, htype⟩ := Option.isSome_iff_exists.mp written.isType
    obtain ⟨typed, htyped⟩ := written.typeWithArguments?_append type
    have hmark : typeWithArrayMark typed (written.mark ++ []) =
        ((typeWithArrayMark typed written.mark).1, []) := by
      rcases written.isMark with hmark | hmark <;> rw [hmark] <;> rfl
    rw [WrittenColumn.tokens, column?, WrittenColumn.tokens, column?, hname, htype]
    simp only [Option.bind_eq_bind, Option.bind_some,
      htyped _ (written.head?_mark_append (.inr hunclosed)),
      htyped _ (written.head?_mark_append (.inl (.inl rfl))),
      written.typeWithArrayMark_of_open typed hunclosed, hmark, takeSettings_of_open hunclosed]
    rfl

theorem IsOpenColumn.not_isColumn {tokens : List Token} (hopen : IsOpenColumn tokens) :
    ¬ IsColumn tokens := by
  obtain ⟨written, unclosed, hunclosed, rfl⟩ := hopen
  rintro ⟨other, settings, hsettings, htokens⟩
  obtain ⟨-, htokens⟩ := List.cons.inj htokens
  obtain ⟨-, htokens⟩ := List.cons.inj htokens
  obtain ⟨typed, htyped⟩ := written.typeWithArguments?_append ""
  obtain ⟨otherTyped, hotherTyped⟩ := other.typeWithArguments?_append ""
  have hbehind := htyped _ (written.head?_mark_append (.inr hunclosed))
  rw [htokens, hotherTyped _ (other.head?_mark_append (.inl hsettings))] at hbehind
  have hmarks : (typeWithArrayMark "" (other.mark ++ settings)).2 = unclosed := by
    rw [(Prod.mk.inj (Option.some.inj hbehind)).2, written.typeWithArrayMark_of_open "" hunclosed]
  have hbegun : unclosed ≠ [] := by
    rintro rfl
    cases hunclosed.head?
  rcases other.typeWithArrayMark_append "" settings with hread | hread
  · rw [hread] at hmarks
    rcases hsettings with rfl | hgroup
    · exact hbegun hmarks.symm
    · exact hunclosed.not_isGroup (hmarks ▸ hgroup)
  · rw [hmarks] at hread
    exact hbegun (eq_nil_of_settings_append (.inl hsettings) ⟨[], balanced_nil.mpr rfl, rfl⟩ hread)

/-- A column takes up all tokens if it has no settings, or a group of them, or one that is not
closed. -/
theorem column?_eq_some_nil_iff {tokens : List Token} :
    (∃ column, column? tokens = some (column, [])) ↔ IsColumn tokens ∨ IsOpenColumn tokens := by
  constructor
  · rintro ⟨column, hcolumn⟩
    unfold column? at hcolumn
    split at hcolumn
    · rename_i nameToken typeToken others
      obtain ⟨name, hname, hcolumn⟩ := Option.bind_eq_some_iff.mp hcolumn
      obtain ⟨type, htype, hcolumn⟩ := Option.bind_eq_some_iff.mp hcolumn
      obtain ⟨⟨typed, behind⟩, harguments, hcolumn⟩ := Option.bind_eq_some_iff.mp hcolumn
      obtain ⟨written, hwritten⟩ := exists_writtenColumn hname htype harguments rfl
      have hrest : (takeSettings (typeWithArrayMark typed behind).2).2 = [] := by
        simp only [Option.some.injEq, Prod.mk.injEq] at hcolumn
        exact hcolumn.2
      exact (takeSettings_rest_eq_nil_iff.mp hrest).imp (fun hclosed =>
        ⟨written, _, hclosed, hwritten⟩)
        fun hopen => ⟨written, _, hopen, hwritten⟩
    · contradiction
  · intro h
    obtain ⟨written, settings, hsettings, rfl⟩ :
      ∃ (written : WrittenColumn) (settings : List Token),
        (IsSettings settings ∨ IsOpenSettings settings) ∧ tokens = written.tokens settings := by
      rcases h with
        ⟨written, settings, hsettings, htokens⟩ | ⟨written, settings, hsettings, htokens⟩
      · exact ⟨written, settings, .inl hsettings, htokens⟩
      · exact ⟨written, settings, .inr hsettings, htokens⟩
    exact written.column?_tokens hsettings

/-! ### Names and endpoints -/

/-- A name with its qualifiers is read up to where no dot follows. -/
theorem exists_names_of_qualifiedName? {tokens rest : List Token} {names : List String}
    (h : qualifiedName? tokens = some (names, rest)) :
    ∃ (qualifiers : List Token) (last : Token), (∀ token ∈ qualifiers, token.name?.isSome = true) ∧
      last.name?.isSome = true ∧
        tokens = qualifiers.flatMap (fun token => [token, .dot]) ++ last :: rest ∧
      names = (qualifiers ++ [last]).filterMap Token.name? ∧ rest.head? ≠ some .dot := by
  fun_induction qualifiedName? tokens generalizing names with
  | case1 token others ih =>
      obtain ⟨first, hfirst, h⟩ := Option.bind_eq_some_iff.mp h
      obtain ⟨⟨more, behind⟩, hmore, h⟩ := Option.bind_eq_some_iff.mp h
      cases h
      obtain ⟨qualifiers, last, hqualifiers, hlast, rfl, rfl, hrest⟩ := ih hmore
      refine ⟨token :: qualifiers, last, ?_, hlast, rfl, ?_, hrest⟩
      · simpa [hfirst] using hqualifiers
      · rw [List.cons_append, List.filterMap_cons_some hfirst]
  | case2 token others hdot =>
      obtain ⟨name, hname, h⟩ := Option.bind_eq_some_iff.mp h
      cases h
      refine ⟨[], token, by simp, by simp [hname], rfl, by simp [hname], fun hhead => ?_⟩
      obtain ⟨more, hmore⟩ := List.head?_eq_some_iff.mp hhead
      exact hdot more hmore
  | case3 => contradiction

theorem WrittenEndpoint.exists_tokens_dot (written : WrittenEndpoint) :
    ∃ token others, written.tokens = token :: .dot :: others ∧ token.name?.isSome = true := by
  have htable : written.table.name?.isSome = true := by rw [written.table_name, Option.isSome_some]
  have hqualifiers := written.isName
  rw [WrittenEndpoint.tokens]
  generalize written.qualifiers = qualifiers at hqualifiers ⊢
  cases qualifiers with
  | nil => exact ⟨written.table, [written.column], rfl, htable⟩
  | cons token others => exact ⟨token, _, rfl, hqualifiers token List.mem_cons_self⟩

theorem exists_writtenEndpoint {tokens rest : List Token} {endpoint : Endpoint}
    (h : endpoint? tokens = some (endpoint, rest)) :
    ∃ written : WrittenEndpoint, tokens = written.tokens ++ rest ∧ rest.head? ≠ some .dot := by
  obtain ⟨⟨names, behind⟩, hnames, h⟩ := Option.bind_eq_some_iff.mp h
  obtain ⟨qualifiers, last, hqualifiers, hlast, rfl, rfl, hrest⟩ :=
    exists_names_of_qualifiedName? hnames
  -- the last qualifier is the table
  obtain rfl | ⟨others, table, rfl⟩ := List.eq_nil_or_concat qualifiers
  · obtain ⟨column, hcolumn⟩ := Option.isSome_iff_exists.mp hlast
    simp [hcolumn] at h
  · obtain ⟨tableName, htable⟩ := Option.isSome_iff_exists.mp (hqualifiers table (by simp))
    obtain ⟨columnName, hcolumn⟩ := Option.isSome_iff_exists.mp hlast
    have hread : (((others ++ [table]) ++ [last]).filterMap Token.name?).reverse =
        columnName :: tableName :: (others.filterMap Token.name?).reverse := by
      simp [htable, hcolumn]
    rw [List.concat_eq_append] at h hqualifiers ⊢
    dsimp only at h
    rw [hread] at h
    cases h
    refine ⟨⟨⟨tableName, columnName⟩, others, table, last, fun token htoken => ?_, htable, hcolumn⟩,
      ?_, hrest⟩
    · exact hqualifiers token (List.mem_append_left _ htoken)
    · simp [WrittenEndpoint.tokens]

/-! ### Relations -/

theorem eq_opTokens_append {tokens rest : List Token} {op : RelationOp}
    (h : relationOp? tokens = some (op, rest)) : tokens = opTokens op ++ rest := by
  unfold relationOp? at h
  split at h <;> cases h <;> rfl

/-- A relation as it is written, in front of its settings. -/
structure WrittenRelation where
  keyword : Token
  name : Option Token
  hasColon : Bool
  source : WrittenEndpoint
  op : RelationOp
  target : WrittenEndpoint
  isKeyword : keyword.isKeyword "ref" = true
  isName : ∀ token ∈ name, token.name?.isSome = true

namespace WrittenRelation

/-- The relation with what stands behind it: `Ref name: a.x > b.y [settings]`. -/
def tokens (written : WrittenRelation) (rest : List Token) : List Token :=
  written.keyword :: (written.name.toList ++ ((if written.hasColon then [.colon] else []) ++
    (written.source.tokens ++ (opTokens written.op ++ (written.target.tokens ++ rest)))))

/-- The relation with the settings that stand behind it. -/
def relation (written : WrittenRelation) (rest : List Token) : NamedRelation where
  relation := (takeSettings rest).1.foldl applyRelationSetting
    (Wording.bare written.source written.op written.target)
  name := written.name.bind Token.name?

/-- The name of a relation is told from its source by the dot that follows there. -/
theorem takeRelationName_append (written : WrittenRelation) (rest : List Token) :
    takeRelationName (written.name.toList ++ ((if written.hasColon then [.colon] else []) ++
      (written.source.tokens ++ rest))) =
      (written.name.bind Token.name?, written.source.tokens ++ rest) := by
  obtain ⟨first, others, hsource, hfirst⟩ := written.source.exists_tokens_dot
  have hname := written.isName
  rw [hsource]
  -- the first token of the source is a name, so that neither a colon nor a dot follows a name
  -- without colon
  generalize written.name = name at hname ⊢
  cases name with
  | none =>
      cases written.hasColon with
      | true => rfl
      | false => cases first <;> first | rfl | contradiction
  | some token =>
      have htoken := hname token rfl
      cases written.hasColon with
      | true => cases token <;> first | rfl | contradiction
      | false => cases token <;> cases first <;> first | rfl | contradiction

theorem endpoint?_source (written : WrittenRelation) (rest : List Token) :
    endpoint? (written.source.tokens ++ (opTokens written.op ++ rest)) =
      some (written.source.endpoint, opTokens written.op ++ rest) := by
  refine written.source.endpoint?_tokens ?_
  cases written.op <;> simp [opTokens]

theorem relationOp?_target (written : WrittenRelation) (rest : List Token) :
    relationOp? (opTokens written.op ++ (written.target.tokens ++ rest)) =
      some (written.op, written.target.tokens ++ rest) := by
  obtain ⟨token, others, htarget, htoken⟩ := written.target.exists_tokens
  refine Wording.relationOp?_opTokens written.op ?_
  rw [htarget]
  rintro ⟨⟩
  contradiction

/-- A relation is read whatever stands behind it, unless its target goes on there. -/
theorem relation?_tokens (written : WrittenRelation) {rest : List Token}
    (hrest : rest.head? ≠ some .dot) :
    relation? (written.tokens rest) = some (written.relation rest) := by
  rw [tokens, relation?, if_pos written.isKeyword, takeRelationName_append]
  simp only [written.endpoint?_source, Option.bind_eq_bind, Option.bind_some,
    written.relationOp?_target, written.target.endpoint?_tokens hrest]
  rfl

end WrittenRelation

theorem exists_name_of_takeRelationName {tokens behind : List Token} {label : Option String}
    (h : takeRelationName tokens = (label, behind)) :
    ∃ (name : Option Token) (hasColon : Bool), (∀ token ∈ name, token.name?.isSome = true) ∧
      tokens = name.toList ++ ((if hasColon then [.colon] else []) ++ behind) := by
  have hnothing : ∀ rest : List Token, (none, rest) = (label, behind) →
      ∃ (name : Option Token) (hasColon : Bool), (∀ token ∈ name, token.name?.isSome = true) ∧
        rest = name.toList ++ ((if hasColon then [.colon] else []) ++ behind) := by
    rintro rest ⟨⟩
    exact ⟨none, false, by simp, rfl⟩
  unfold takeRelationName at h
  split at h
  · cases h
    exact ⟨none, true, by simp, rfl⟩
  · rename_i token rest hcolon
    split at h
    · rename_i name hname
      cases h
      exact ⟨some token, true, by simp [hname], rfl⟩
    · exact hnothing _ h
  · exact hnothing _ h
  · rename_i token rest hcolon hnamed hdot
    split at h
    · rename_i name hname
      cases h
      exact ⟨some token, false, by simp [hname], rfl⟩
    · exact hnothing _ h
  · exact hnothing _ h

/-- The statements of relations are a written relation with anything behind it, unless this begins
with a dot. -/
theorem relation?_eq_some_iff {tokens : List Token} {named : NamedRelation} :
    relation? tokens = some named ↔ ∃ (written : WrittenRelation) (rest : List Token),
      tokens = written.tokens rest ∧ rest.head? ≠ some .dot ∧ named = written.relation rest := by
  constructor
  · intro h
    obtain ⟨written, rest, rfl, hrest⟩ : ∃ (written : WrittenRelation) (rest : List Token),
        tokens = written.tokens rest ∧ rest.head? ≠ some .dot := by
      unfold relation? at h
      split at h
      · contradiction
      · rename_i keyword others
        split at h
        · rename_i hkeyword
          cases hlabel : takeRelationName others with
          | mk label behindName =>
          rw [hlabel] at h
          obtain ⟨⟨source, behindSource⟩, hsource, h⟩ := Option.bind_eq_some_iff.mp h
          obtain ⟨⟨op, behindOp⟩, hop, h⟩ := Option.bind_eq_some_iff.mp h
          obtain ⟨⟨target, rest⟩, htarget, h⟩ := Option.bind_eq_some_iff.mp h
          obtain ⟨name, hasColon, hname, hothers⟩ := exists_name_of_takeRelationName hlabel
          obtain ⟨writtenSource, hwrittenSource, -⟩ := exists_writtenEndpoint hsource
          obtain ⟨writtenTarget, rfl, hrest⟩ := exists_writtenEndpoint htarget
          have hbehindSource := eq_opTokens_append hop
          refine ⟨⟨keyword, name, hasColon, writtenSource, op, writtenTarget, hkeyword, hname⟩,
            rest, ?_, hrest⟩
          rw [WrittenRelation.tokens, ← hbehindSource, ← hwrittenSource, ← hothers]
        · contradiction
    rw [written.relation?_tokens hrest] at h
    exact ⟨written, rest, rfl, hrest, (Option.some.inj h).symm⟩
  · rintro ⟨written, rest, rfl, hrest, rfl⟩
    exact written.relation?_tokens hrest

/-- The tokens are a relation with its settings, which are a group if there are any. -/
def IsRelation (tokens : List Token) : Prop :=
  ∃ (written : WrittenRelation) (settings : List Token),
    IsSettings settings ∧ tokens = written.tokens settings

/-- The tokens are a relation with something behind it that is no settings, and does not go on with
its target. -/
def IsTrailedRelation (tokens : List Token) : Prop :=
  ∃ (written : WrittenRelation) (rest : List Token),
    ¬ IsSettings rest ∧ rest.head? ≠ some .dot ∧ tokens = written.tokens rest

theorem IsSettings.head?_ne_dot {settings : List Token} (h : IsSettings settings) :
    settings.head? ≠ some .dot := by
  rcases h with rfl | hgroup
  · simp
  · rw [hgroup.head?]
    simp

theorem relation?_isSome_iff {tokens : List Token} :
    (∃ named, relation? tokens = some named) ↔ IsRelation tokens ∨ IsTrailedRelation tokens := by
  constructor
  · rintro ⟨named, hnamed⟩
    obtain ⟨written, rest, rfl, hrest, -⟩ := relation?_eq_some_iff.mp hnamed
    by_cases hsettings : IsSettings rest
    · exact .inl ⟨written, rest, hsettings, rfl⟩
    · exact .inr ⟨written, rest, hsettings, hrest, rfl⟩
  · rintro (⟨written, settings, hsettings, rfl⟩ | ⟨written, rest, -, hrest, rfl⟩)
    · exact ⟨_, written.relation?_tokens hsettings.head?_ne_dot⟩
    · exact ⟨_, written.relation?_tokens hrest⟩

namespace WrittenRelation

/-- What stands behind a relation is told from the tokens. -/
theorem rest_eq {written other : WrittenRelation} {rest more : List Token}
    (hrest : rest.head? ≠ some .dot)
    (hmore : more.head? ≠ some .dot) (h : written.tokens rest = other.tokens more) :
      rest = more := by
  have hnames := congrArg takeRelationName (List.cons.inj h).2
  rw [written.takeRelationName_append, other.takeRelationName_append] at hnames
  have hsources := congrArg endpoint? (Prod.mk.inj hnames).2
  rw [written.endpoint?_source, other.endpoint?_source] at hsources
  have hops := congrArg relationOp? (Prod.mk.inj (Option.some.inj hsources)).2
  rw [written.relationOp?_target, other.relationOp?_target] at hops
  have htargets := congrArg endpoint? (Prod.mk.inj (Option.some.inj hops)).2
  rw [written.target.endpoint?_tokens hrest, other.target.endpoint?_tokens hmore] at htargets
  exact (Prod.mk.inj (Option.some.inj htargets)).2

end WrittenRelation

theorem IsTrailedRelation.not_isRelation {tokens : List Token}
    (htrailed : IsTrailedRelation tokens) :
    ¬ IsRelation tokens := by
  obtain ⟨written, rest, hrest, hhead, rfl⟩ := htrailed
  rintro ⟨other, settings, hsettings, htokens⟩
  rw [WrittenRelation.rest_eq hhead hsettings.head?_ne_dot htokens] at hrest
  exact hrest hsettings

/-- Of a relation with something behind it that is no settings only the beginning is read. -/
theorem IsTrailedRelation.exists_isRelation {tokens : List Token}
    (htrailed : IsTrailedRelation tokens) :
    ∃ kept dropped, tokens = kept ++ dropped ∧ dropped ≠ [] ∧ IsRelation kept ∧
      relation? tokens = relation? kept := by
  obtain ⟨written, rest, hrest, hhead, rfl⟩ := htrailed
  obtain ⟨settings, dropped, hsettings, rfl, hset⟩ := exists_settings rest
  refine ⟨written.tokens settings, dropped, ?_, ?_, ⟨written, settings, hsettings, rfl⟩, ?_⟩
  · simp [WrittenRelation.tokens]
  · rintro rfl
    rw [List.append_nil] at hrest
    exact hrest hsettings
  · rw [written.relation?_tokens hhead, written.relation?_tokens hsettings.head?_ne_dot,
      WrittenRelation.relation, hset, WrittenRelation.relation]

/-! ### Headers -/

theorem suffix_of_takeAlias? {tokens rest : List Token} {aliasName : Option String}
    (h : takeAlias? tokens = some (aliasName, rest)) : rest <:+ tokens := by
  unfold takeAlias? at h
  split at h
  · rename_i keyword others
    split at h
    · split at h
      · rename_i token behind
        obtain ⟨name, -, h⟩ := Option.map_eq_some_iff.mp h
        cases h
        exact ⟨[keyword, token], rfl⟩
      · contradiction
    · cases h
      exact List.suffix_rfl
  · cases h
    exact List.suffix_rfl

theorem suffix_of_skipSettings? {tokens rest : List Token} (h : skipSettings? tokens = some rest) :
    rest <:+ tokens := by
  unfold skipSettings? at h
  split at h
  · obtain ⟨⟨inner, behind⟩, htaken, rfl⟩ := Option.map_eq_some_iff.mp h
    obtain ⟨group, -, htokens⟩ := exists_group_of_takeGroup? (by decide) htaken
    exact ⟨group, htokens.symm⟩
  · cases h
    exact List.suffix_rfl

theorem getLast?_of_header {tokens : List Token} {header : TableHeader}
    (h : TableHeader.ofTokens? tokens = some header) : tokens.getLast? = some .leftBrace := by
  unfold TableHeader.ofTokens? at h
  split at h
  · contradiction
  · rename_i keyword others
    split at h
    · obtain ⟨⟨names, behindName⟩, hnames, h⟩ := Option.bind_eq_some_iff.mp h
      obtain ⟨⟨aliasName, behindAlias⟩, halias, h⟩ := Option.bind_eq_some_iff.mp h
      obtain ⟨rest, hrest, h⟩ := Option.bind_eq_some_iff.mp h
      split at h
      · rename_i hbrace
        obtain ⟨qualifiers, last, -, -, hothers, -⟩ := exists_names_of_qualifiedName? hnames
        have hname : behindName <:+ keyword :: others :=
          ⟨keyword :: (qualifiers.flatMap (fun token => [token, .dot]) ++ [last]), by
            simp [hothers]⟩
        obtain ⟨front, hfront⟩ :=
          ((suffix_of_skipSettings? hrest).trans (suffix_of_takeAlias? halias)).trans hname
        rw [← hfront, hbrace, List.getLast?_concat]
      · contradiction
    · contradiction

theorem getLast?_of_projectHeader {tokens : List Token} {name : Option String}
    (h : projectHeader? tokens = some name) : tokens.getLast? = some .leftBrace := by
  unfold projectHeader? at h
  split at h
  · rfl
  · rfl
  · contradiction

end Dbml.Source
