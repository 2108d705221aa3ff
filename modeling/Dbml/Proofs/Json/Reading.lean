import Dbml.Proofs.Json.Values

/-!
# Written JSON is read back

The reader takes the lexemes of a text one after another, so its way through a text is the way
through the first part and then through the rest (`takeText`).  Where a value has to come, the lines
of a value bring the reader to the complete node of the value, whatever text follows and whatever is
open around it (`takeText_pretty`).

Arrays and objects are alike in this: between two brackets stand items with commas in between.  What
the reader remembers in the meantime is a `Passage`.
-/

namespace Dbml.Json

/-! ### One lexeme -/

theorem lexeme?_blank {c : Char} (h : isJsonBlank c = true) (rest : List Char) :
    lexeme? (c :: rest) = none := by
  simp only [isJsonBlank, Bool.or_eq_true, decide_eq_true_eq] at h
  rcases h with ((rfl | rfl) | rfl) | rfl <;>
    simp [lexeme?, unsignedNumber?, wholePart?, digits?]

theorem lexemes?_eq (text : List Char) :
    lexemes? text =
      match text.dropWhile isJsonBlank with
      | [] => some []
      | c :: rest => (lexeme? (c :: rest)).bind fun (lexeme, rest) =>
          (lexemes? rest).map (lexeme :: ·) := by
  rw [lexemes?.eq_def]
  split
  · rename_i hskip
    rw [hskip]
  · rename_i hskip
    rw [hskip]
    split <;> simp_all

theorem lexemes?_blank {c : Char} (h : isJsonBlank c = true) (rest : List Char) :
    lexemes? (c :: rest) = lexemes? rest := by
  rw [lexemes?_eq, lexemes?_eq rest, List.dropWhile_cons, if_pos h]

theorem lexemes?_of_lexeme? {text rest : List Char} {lexeme : Lexeme}
    (h : lexeme? text = some (lexeme, rest)) :
    lexemes? text = (lexemes? rest).map (lexeme :: ·) := by
  cases text with
  | nil => simp [lexeme?, unsignedNumber?, wholePart?, digits?] at h
  | cons c tail =>
      have hblank : ¬isJsonBlank c = true := by
        intro hblank
        rw [lexeme?_blank hblank] at h
        contradiction
      rw [lexemes?_eq, List.dropWhile_cons, if_neg hblank]
      simp [h]

namespace Reader

/-! ### The way through a text -/

/-- The reader after all lexemes of a text. -/
def takeText (reader : Reader) (text : List Char) : Option Reader :=
  (lexemes? text).bind fun lexemes => lexemes.foldlM take reader

variable {reader next : Reader} {text rest : List Char} {lexeme : Lexeme}

theorem takeText_nil (reader : Reader) : reader.takeText [] = some reader := by
  simp [takeText, lexemes?_eq]

theorem takeText_blank {c : Char} (h : isJsonBlank c = true) :
    reader.takeText (c :: rest) = reader.takeText rest := by
  rw [takeText, takeText, lexemes?_blank h]

theorem takeText_blanks (n : Nat) :
    reader.takeText (List.replicate n ' ' ++ rest) = reader.takeText rest := by
  induction n with
  | zero => rfl
  | succ n ih => rw [List.replicate_succ, List.cons_append, takeText_blank rfl, ih]

theorem takeText_lexeme (hlexeme : lexeme? text = some (lexeme, rest))
    (hnext : reader.take lexeme = some next) : reader.takeText text = next.takeText rest := by
  rw [takeText, takeText, lexemes?_of_lexeme? hlexeme]
  cases lexemes? rest with
  | none => rfl
  | some lexemes => simp [hnext]

/-- A value may come next. -/
def Awaits (reader : Reader) : Prop :=
  reader.stage = .value ∨ reader.stage = .firstItem

/-- Where a value may come, a lexeme other than a closing bracket begins one. -/
theorem take_of_awaits (h : reader.Awaits) (hlexeme : lexeme ≠ .closeArray) :
    reader.take lexeme = takeValue reader.frames lexeme := by
  obtain ⟨frames, stage⟩ := reader
  rcases h with rfl | rfl
  · rfl
  · cases lexeme <;> first | rfl | contradiction

/-! ### Items between brackets -/

/-- How the reader goes through the items between two brackets.  The earlier items stand in reverse.
-/
structure Passage (α : Type) (closing : Lexeme) where
  /-- The reader in front of an item. -/
  awaits : List α → Reader
  /-- The reader behind an item. -/
  holds : List α → α → Reader
  /-- The reader behind the closing bracket. -/
  closed : List α → Reader
  close_empty : (awaits []).take closing = some (closed [])
  comma : ∀ before item, (holds before item).take .comma = some (awaits (item :: before))
  close : ∀ before item, (holds before item).take closing = some (closed (item :: before))

/-- The way through an array. -/
def itemPassage (frames : List Frame) : Passage Value .closeArray where
  awaits before :=
    ⟨.array (before.map Node.ofValue) :: frames, if before.isEmpty then .firstItem else .value⟩
  holds before item :=
    ⟨.array (before.map Node.ofValue) :: frames, .complete (Node.ofValue item)⟩
  closed before := ⟨frames, .complete (.array (before.map Node.ofValue).reverse)⟩
  close_empty := rfl
  comma _ _ := rfl
  close _ _ := rfl

/-- The way through an object. -/
def fieldPassage (frames : List Frame) : Passage (String × Value) .closeObject where
  awaits before :=
    ⟨frames, if before.isEmpty then .firstKey else .nextKey (before.map Node.ofField)⟩
  holds before field :=
    ⟨.object (before.map Node.ofField) (some field.1) :: frames,
      .complete (Node.ofValue field.2)⟩
  closed before := ⟨frames, .complete (.object (before.map Node.ofField).reverse)⟩
  close_empty := rfl
  comma _ _ := rfl
  close _ _ := rfl

theorem endsNumber_cons {c : Char} (h : c.isDigit = false ∧ c ≠ '.' ∧ c ≠ 'e' ∧ c ≠ 'E')
    (rest : List Char) : EndsNumber (c :: rest) := by
  intro d hd
  simp only [List.head?_cons, Option.mem_def, Option.some.injEq] at hd
  exact hd ▸ h

section Block

variable {α : Type} {closing : Lexeme} (passage : Passage α closing) {line : α → List Char}
  {bracket : Char} {indent : Nat} {items : List α}

/-- The lines of an item bring the reader behind the item, whatever came before. -/
def Passage.Reads (line : α → List Char) (item : α) : Prop :=
  ∀ before rest, EndsNumber rest →
    (passage.awaits before).takeText (line item ++ rest) =
      (passage.holds before item).takeText rest

/-- The lines of several items lead from the first item to the closing bracket. -/
theorem takeText_items (hbracket : ∀ rest, lexeme? (bracket :: rest) = some (closing, rest))
    (hne : items ≠ []) (hitems : ∀ item ∈ items, passage.Reads line item) (before : List α)
    (rest : List Char) :
    (passage.awaits before).takeText
        ([',', '\n'].intercalate (items.map fun item =>
          List.replicate (indent + 2) ' ' ++ line item) ++
          '\n' :: (List.replicate indent ' ' ++ bracket :: rest)) =
      (passage.closed (items.reverse ++ before)).takeText rest := by
  induction items generalizing before with
  | nil => contradiction
  | cons item items ih =>
      rw [List.forall_mem_cons] at hitems
      cases items with
      | nil =>
          rw [List.map_singleton, List.intercalate_singleton, List.append_assoc, takeText_blanks,
            hitems.1 _ _ (endsNumber_cons (by decide) _), takeText_blank rfl, takeText_blanks,
            takeText_lexeme (hbracket rest) (passage.close before item)]
          rfl
      | cons second items =>
          have hcomma : ∀ rest, lexeme? (',' :: rest) = some (.comma, rest) := fun _ => rfl
          rw [List.map_cons, List.map_cons, List.intercalate_cons_cons, ← List.map_cons
            (f := fun item => List.replicate (indent + 2) ' ' ++ line item)]
          simp only [List.append_assoc, List.cons_append, List.nil_append]
          calc
            _ = (passage.holds before item).takeText (',' :: '\n' :: _) := by
              rw [takeText_blanks, hitems.1 _ _ (endsNumber_cons (by decide) _)]
            _ = (passage.awaits (item :: before)).takeText _ := by
              rw [takeText_lexeme (hcomma _) (passage.comma before item), takeText_blank rfl]
            _ = (passage.closed ((second :: items).reverse ++ (item :: before))).takeText rest :=
              ih (by simp) hitems.2 _
            _ = (passage.closed ((item :: second :: items).reverse ++ before)).takeText rest := by
              simp

/-- Items between brackets bring the reader behind the closing bracket. -/
theorem takeText_block {opening : Char} {lexeme : Lexeme}
    (hopening : ∀ rest, lexeme? (opening :: rest) = some (lexeme, rest))
    (hbracket : ∀ rest, lexeme? (bracket :: rest) = some (closing, rest))
    (hopen : reader.take lexeme = some (passage.awaits []))
    (hitems : ∀ item ∈ items, passage.Reads line item) (rest : List Char) :
    reader.takeText (Value.block opening bracket indent (items.map line) ++ rest) =
      (passage.closed items.reverse).takeText rest := by
  by_cases hne : items = []
  · subst hne
    have hblock : Value.block opening bracket indent (([] : List α).map line) ++ rest =
        opening :: bracket :: rest := rfl
    rw [hblock, takeText_lexeme (hopening _) hopen,
      takeText_lexeme (hbracket _) passage.close_empty]
    rfl
  · rw [Value.block, if_neg (by simpa using hne), List.map_map]
    simp only [List.append_assoc, List.cons_append, List.nil_append]
    rw [takeText_lexeme (hopening _) hopen, takeText_blank rfl]
    exact (takeText_items passage hbracket hne hitems [] rest).trans (by rw [List.append_nil])

end Block

/-! ### Values -/

/-- The lines of a value bring the reader behind the value. -/
theorem takeText_pretty {value : Value} (h : value.OnlyIntegers) (hawaits : reader.Awaits)
    (indent : Nat) (hrest : EndsNumber rest) :
    reader.takeText (value.pretty indent ++ rest) =
      takeText ⟨reader.frames, .complete (Node.ofValue value)⟩ rest := by
  induction h generalizing reader indent rest with
  | null => exact takeText_lexeme rfl (take_of_awaits hawaits (by simp))
  | bool b => cases b <;> exact takeText_lexeme rfl (take_of_awaits hawaits (by simp))
  | @number n hn =>
      cases n with
      | int n =>
          have hliteral : takeValue reader.frames (.number (integerLiteral n)) =
              some ⟨reader.frames, .complete (.number (some (.int n)))⟩ := by
            rw [takeValue, ofLiteral?_integerLiteral hn]
          exact takeText_lexeme (lexeme?_intText n hrest)
            ((take_of_awaits hawaits (by simp)).trans hliteral)
      | float x => contradiction
  | string s =>
      exact takeText_lexeme (lexeme?_stringLiteral s rest) (take_of_awaits hawaits (by simp))
  | @array items _ ih =>
      have hitem : ∀ item ∈ items,
          (itemPassage reader.frames).Reads (Value.pretty (indent + 2)) item := by
        intro item hmem before rest hrest
        exact ih item hmem (by cases before <;> simp [Awaits, itemPassage]) _ hrest
      have hopen : reader.take .openArray = some ((itemPassage reader.frames).awaits []) :=
        take_of_awaits hawaits (by simp)
      rw [Value.pretty, Value.prettyItems_eq,
        takeText_block _ (fun _ => rfl) (fun _ => rfl) hopen hitem]
      simp [itemPassage, Node.ofValue, Node.ofItems_eq]
  | @object fields _ ih =>
      have hfield : ∀ field ∈ fields,
          (fieldPassage reader.frames).Reads (Value.prettyField (indent + 2)) field := by
        intro field hmem before rest hrest
        have hkey : ((fieldPassage reader.frames).awaits before).take (.string (some field.1)) =
            some ⟨reader.frames, .colon (before.map Node.ofField) (some field.1)⟩ := by
          cases before <;> rfl
        have hcolon : ∀ rest, lexeme? (':' :: rest) = some (.colon, rest) := fun _ => rfl
        simp only [Value.prettyField, List.append_assoc, List.cons_append, List.nil_append]
        calc
          _ = takeText ⟨reader.frames, .colon (before.map Node.ofField) (some field.1)⟩
                (':' :: ' ' :: (field.2.pretty (indent + 2) ++ rest)) :=
            takeText_lexeme (lexeme?_stringLiteral _ _) hkey
          _ = takeText ⟨.object (before.map Node.ofField) (some field.1) :: reader.frames, .value⟩
                (field.2.pretty (indent + 2) ++ rest) := by
            rw [takeText_lexeme (hcolon _) rfl, takeText_blank rfl]
          _ = ((fieldPassage reader.frames).holds before field).takeText rest :=
            ih field hmem (.inl rfl) _ hrest
      have hopen : reader.take .openObject = some ((fieldPassage reader.frames).awaits []) :=
        take_of_awaits hawaits (by simp)
      rw [Value.pretty, Value.prettyFields_eq,
        takeText_block _ (fun _ => rfl) (fun _ => rfl) hopen hfield]
      simp [fieldPassage, Node.ofValue, Node.ofFields_eq]

end Reader

theorem read?_eq (text : List Char) :
    read? text = (Reader.takeText ⟨[], .value⟩ text).bind Reader.result? := by
  simp only [read?, Reader.takeText, Option.bind_eq_bind, Option.bind_assoc]

/-- The lines of a value are read as the node of the value. -/
theorem read?_pretty {value : Value} (h : value.OnlyIntegers) :
    read? (value.pretty 0) = some (Node.ofValue value) := by
  have hawaits : Reader.Awaits ⟨[], .value⟩ := .inl rfl
  have hread := Reader.takeText_pretty h hawaits 0 (show EndsNumber [] by simp [EndsNumber])
  rw [List.append_nil, Reader.takeText_nil] at hread
  rw [read?_eq, hread]
  rfl

end Dbml.Json
