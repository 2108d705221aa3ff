import Dbml.Proofs.Source.Items
import Dbml.Proofs.Source.Statements

/-!
# Reading the lines of a table

The tokens of settings group nothing, so that the brackets and commas around them are the only ones
on the line of a column.  Hence

* the settings of the line are those that were written (`takeSettings_settingsTokens`), and the line
  gives back the column (`column?_columnTokens`);
* a line is one statement (`statements_columnTokens`, `statements_headerTokens`), of tokens that can
  be written;
* a header gives back the name and the alias of the table (`ofTokens?_headerTokens`).
-/

namespace Dbml.Source

/-! ### The tokens of settings -/

/-- A token that settings may consist of: it groups nothing and can be written. -/
def isSettingToken (token : Token) : Bool :=
  isPlain token && token.isWritable

/-- What a list of settings may have for an item. -/
structure IsSetting (item : List Token) : Prop where
  ne_nil : item ≠ []
  tokens : item.all isSettingToken = true

theorem IsSetting.isItem {item : List Token} (h : IsSetting item) : IsItem item := by
  apply isItem_of_plain h.ne_nil
  intro token htoken
  have hsetting := List.all_eq_true.mp h.tokens token htoken
  simp only [isSettingToken, Bool.and_eq_true] at hsetting
  exact hsetting.1

theorem isSetting_of_mem_flagSetting {isSet : Bool} {words : List String}
    (h : IsSetting (words.map Token.ident)) {item : List Token}
    (hitem : item ∈ flagSetting isSet words) : IsSetting item := by
  cases isSet with
  | false => simp [flagSetting] at hitem
  | true =>
      obtain rfl : item = words.map Token.ident := by simpa [flagSetting] using hitem
      exact h

theorem isSetting_of_mem_keyedSetting {key : String} {value : Option (List Token)}
    (hkey : isSettingToken (.ident key) = true)
    (hvalue : ∀ tokens ∈ value, tokens.all isSettingToken = true)
    {item : List Token} (hitem : item ∈ keyedSetting key value) : IsSetting item := by
  cases value with
  | none => simp [keyedSetting] at hitem
  | some tokens =>
      obtain rfl : item = .ident key :: .colon :: tokens := by simpa [keyedSetting] using hitem
      have hcolon : isSettingToken .colon = true := rfl
      exact ⟨by simp, by simpa [hkey, hcolon] using hvalue tokens rfl⟩

theorem all_defaultTokens {value : DefaultValue} (h : IsWritableDefault value) :
    (defaultTokens value).all isSettingToken = true := by
  cases value with
  | bool b => cases b <;> rfl
  | text text => rfl
  | number n =>
      cases n with
      | float x => exact h.elim
      | int n =>
          have hdash : isSettingToken .dash = true := rfl
          have hdigits : isSettingToken (.num (String.ofList (Decimal.toDigits n.natAbs))) =
              true := by
            have hne : (Decimal.toDigits n.natAbs).isEmpty = false := by simp [Decimal.toDigits]
            have hall : (Decimal.toDigits n.natAbs).all Char.isDigit = true :=
              List.all_eq_true.mpr fun c hc => Decimal.isDigit_of_mem_toDigits hc
            rw [isSettingToken, Token.isWritable, String.toList_ofList, hne, hall]
            rfl
          show (numberTokens (.int n)).all isSettingToken = true
          rw [numberTokens_int]
          by_cases hneg : n < 0 <;> simp [hneg, hdash, hdigits]

theorem isSetting_of_mem_columnSettings {column : Column} (h : IsWritableColumn column)
    {item : List Token} (hitem : item ∈ columnSettings column) : IsSetting item := by
  simp only [columnSettings, List.mem_append, or_assoc] at hitem
  rcases hitem with hitem | hitem | hitem | hitem | hitem | hitem | hitem
  · exact isSetting_of_mem_flagSetting ⟨by simp, rfl⟩ hitem
  · exact isSetting_of_mem_flagSetting ⟨by simp, rfl⟩ hitem
  · rcases hnullable : column.nullable with _ | _ | _ <;> rw [hnullable] at hitem
    · simp [nullableSetting] at hitem
    · obtain rfl : item = [.ident "not", .ident "null"] := by simpa [nullableSetting] using hitem
      exact ⟨by simp, rfl⟩
    · obtain rfl : item = [.ident "null"] := by simpa [nullableSetting] using hitem
      exact ⟨by simp, rfl⟩
  · exact isSetting_of_mem_flagSetting ⟨by simp, rfl⟩ hitem
  · refine isSetting_of_mem_keyedSetting rfl (fun tokens htokens => ?_) hitem
    obtain ⟨note, -, rfl⟩ := Option.mem_map.mp htokens
    rfl
  · refine isSetting_of_mem_keyedSetting rfl (fun tokens htokens => ?_) hitem
    obtain ⟨value, hvalue, rfl⟩ := Option.mem_map.mp htokens
    exact all_defaultTokens (h.default value hvalue)
  · refine isSetting_of_mem_keyedSetting rfl (fun tokens htokens => ?_) hitem
    obtain ⟨r, -, rfl⟩ := Option.mem_map.mp htokens
    unfold referenceTokens
    cases (r.cardinality.getD .manyToOne).op <;> rfl

/-! ### Lists of settings -/

theorem mem_intercalate_comma {parts : List (List Token)} {token : Token}
    (h : token ∈ [.comma].intercalate parts) : token = .comma ∨ ∃ item ∈ parts, token ∈ item := by
  induction parts with
  | nil => simp at h
  | cons item rest ih =>
      cases rest with
      | nil => exact .inr ⟨item, by simp, by simpa using h⟩
      | cons next rest =>
          rw [List.intercalate_cons_cons, List.mem_append, List.mem_append,
            List.mem_singleton] at h
          rcases h with (hitem | hcomma) | hrest
          · exact .inr ⟨item, by simp, hitem⟩
          · exact .inl hcomma
          · obtain hcomma | ⟨other, hother, htoken⟩ := ih hrest
            · exact .inl hcomma
            · exact .inr ⟨other, List.mem_cons_of_mem _ hother, htoken⟩

section Settings

variable {settings : List (List Token)} (hsettings : ∀ item ∈ settings, IsSetting item)

include hsettings

/-- Between the brackets of a list of settings there are commas besides their tokens. -/
theorem isSettingToken_of_mem_intercalate {token : Token}
    (h : token ∈ [.comma].intercalate settings) : token = .comma ∨ isSettingToken token = true := by
  obtain hcomma | ⟨item, hitem, htoken⟩ := mem_intercalate_comma h
  · exact .inl hcomma
  · exact .inr (List.all_eq_true.mp (hsettings item hitem).tokens token htoken)

theorem not_mem_intercalate {token : Token} (hcomma : token ≠ .comma)
    (hplain : isPlain token = false) : token ∉ [.comma].intercalate settings := by
  intro hmem
  rcases isSettingToken_of_mem_intercalate hsettings hmem with h | h
  · exact hcomma h
  · simp [isSettingToken, hplain] at h

/-- Settings do not look like the mark of an array. -/
theorem typeWithArrayMark_settingsTokens (type : String) :
    typeWithArrayMark type (settingsTokens settings) = (type, settingsTokens settings) := by
  cases settings with
  | nil => rfl
  | cons item rest =>
      -- the mark of an array has nothing between its brackets
      have hclosing : Token.rightBracket ∉ [.comma].intercalate (item :: rest) :=
        not_mem_intercalate hsettings (by decide) rfl
      have hne : [Token.comma].intercalate (item :: rest) ≠ [] := by
        have hitem := (hsettings item List.mem_cons_self).ne_nil
        cases rest <;> simp [hitem]
      rw [settingsTokens, if_neg (by simp)]
      cases hinner : [Token.comma].intercalate (item :: rest) with
      | nil => exact absurd hinner hne
      | cons first others =>
          have hfirst : first ≠ .rightBracket := by
            rintro rfl
            simp [hinner] at hclosing
          unfold typeWithArrayMark
          split
          · simp_all
          · rfl

theorem typeWithArguments?_settingsTokens (type : String) :
    typeWithArguments? type (settingsTokens settings) = some (type, settingsTokens settings) := by
  unfold settingsTokens
  cases settings with
  | nil => rfl
  | cons item rest => rfl

/-- A list of settings has brackets around it, and otherwise commas and tokens of settings. -/
theorem mem_settingsTokens {token : Token} (h : token ∈ settingsTokens settings) :
    token = .leftBracket ∨ token = .rightBracket ∨ token = .comma ∨
      isSettingToken token = true := by
  unfold settingsTokens at h
  split at h
  · simp at h
  · simp only [List.mem_cons, List.mem_append, List.not_mem_nil, or_false] at h
    rcases h with hopening | hinner | hclosing
    · exact .inl hopening
    · exact .inr (.inr (isSettingToken_of_mem_intercalate hsettings hinner))
    · exact .inr (.inl hclosing)

end Settings

/-! ### Lines -/

/-- **The line of a column is read as that column.** -/
theorem column?_columnTokens {column : Column} (h : IsWritableColumn column) :
    column? (columnTokens column) = some (column, []) := by
  have hsettings : ∀ item ∈ columnSettings column, IsSetting item := fun item hitem =>
    isSetting_of_mem_columnSettings h hitem
  have hread : takeSettings (settingsTokens (columnSettings column)) =
    (columnSettings column, []) :=
    takeSettings_settingsTokens fun item hitem => (hsettings item hitem).isItem
  simp only [column?, columnTokens, Token.name?, Option.bind_eq_bind, Option.bind_some,
    typeWithArguments?_settingsTokens hsettings, typeWithArrayMark_settingsTokens hsettings, hread,
    foldl_columnSettings h]

theorem mem_columnTokens {column : Column} (h : IsWritableColumn column) {token : Token}
    (htoken : token ∈ columnTokens column) :
    token = .str column.name ∨ token = .str column.type ∨ token = .leftBracket ∨
      token = .rightBracket ∨ token = .comma ∨ isSettingToken token = true := by
  simp only [columnTokens, List.mem_cons] at htoken
  rcases htoken with hname | htype | hsettings
  · exact .inl hname
  · exact .inr (.inl htype)
  · exact .inr (.inr (mem_settingsTokens
      (fun item hitem => isSetting_of_mem_columnSettings h hitem) hsettings))

theorem isWritable_of_mem_columnTokens {column : Column} (h : IsWritableColumn column)
    {token : Token} (htoken : token ∈ columnTokens column) : token.isWritable = true := by
  rcases mem_columnTokens h htoken with rfl | rfl | rfl | rfl | rfl | hsetting
  · rfl
  · rfl
  · rfl
  · rfl
  · rfl
  · simp only [isSettingToken, Bool.and_eq_true] at hsetting
    exact hsetting.2

theorem brace_not_mem_columnTokens {column : Column} (h : IsWritableColumn column) {brace : Token}
    (hbrace : brace = .leftBrace ∨ brace = .rightBrace) : brace ∉ columnTokens column := by
  intro hmem
  rcases hbrace with rfl | rfl <;>
    rcases mem_columnTokens h hmem with h | h | h | h | h | h <;>
    contradiction

theorem statements_columnTokens {column : Column} (h : IsWritableColumn column) :
    statements (columnTokens column ++ [.endOfText]) = [columnTokens column] :=
  statements_of_no_brace (by simp [columnTokens]) (brace_not_mem_columnTokens h (.inl rfl))
    (brace_not_mem_columnTokens h (.inr rfl))

theorem isWritable_of_mem_headerTokens {table : Table} {token : Token}
    (htoken : token ∈ headerTokens table) : token.isWritable = true := by
  have hall : (headerTokens table).all Token.isWritable = true := by
    unfold headerTokens
    split <;> rfl
  exact List.all_eq_true.mp hall token htoken

theorem statements_headerTokens (table : Table) :
    statements (headerTokens table ++ [.endOfText]) = [headerTokens table] := by
  unfold headerTokens
  split <;> rfl

/-- **The header of a table is read as its name and its alias.** -/
theorem ofTokens?_headerTokens (table : Table) :
    TableHeader.ofTokens? (headerTokens table) = some ⟨table.name, table.aliasName⟩ := by
  unfold headerTokens
  split
  · rename_i halias
    rw [halias]
    rfl
  · rename_i aliasName halias
    rw [halias]
    rfl

end Dbml.Source
