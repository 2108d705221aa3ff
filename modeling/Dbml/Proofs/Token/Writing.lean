import Dbml.Proofs.Token.Quoted

/-!
# Writing tokens so that they are read back

Tokens are written with a blank between two of them, except where a bracket, a comma or the like
needs none.  Strings are written with escapes.  Whatever tokens are written so, the lexer gives them
back, and the text is one that a line can have:

* the lexer (`Lexer.tokenize_write`): the text behind a token begins with nothing that could
  continue the token, so that each step of the lexer takes off one token;
* the ends (`trim_write`): no token begins or ends with a blank;
* the line feed (`Token.not_mem_writeAfter`): it does not occur, since strings escape it.
-/

namespace Dbml

namespace Token

/-! ### The text of a token -/

/-- A character of a string as it is written between single quotes. -/
def escape (c : Char) : List Char :=
  if c = '\\' then ['\\', '\\']
  else if c = '\'' then ['\\', '\'']
  else if c = '\n' then ['\\', 'n']
  else [c]

/-- The text of a token, where a string stands between single quotes. -/
def written : Token → List Char
  | .str text => '\'' :: (text.toList.flatMap escape ++ ['\''])
  | token => token.text

/-- A token as the lexer can give it: the characters of a word or of a number are the right ones,
and the end of the text is none. -/
def isWritable : Token → Bool
  | .ident text =>
    !text.toList.isEmpty && text.toList.all Text.isWordChar && !text.toList.all Char.isDigit
  | .num text => !text.toList.isEmpty && text.toList.all Char.isDigit
  | .endOfText => false
  | _ => true

/-- A token without quotes, which lasts as long as the characters allow. -/
def isOpenEnded : Token → Bool
  | .ident _ | .num _ => true
  | _ => false

variable {token : Token}

theorem escape_ne_newline (c : Char) : '\n' ∉ escape c := by
  unfold escape
  split
  · decide
  · split
    · decide
    · split
      · decide
      · rename_i hnewline
        simpa using fun h => hnewline h.symm

theorem isWordChar_of_mem_written (h : token.isWritable = true) (hopen : token.isOpenEnded = true)
    {c : Char} (hc : c ∈ token.written) : Text.isWordChar c = true := by
  cases token with
  | ident text =>
      simp only [isWritable, Bool.and_eq_true, List.all_eq_true] at h
      exact h.1.2 c hc
  | num text =>
      simp only [isWritable, Bool.and_eq_true, List.all_eq_true] at h
      exact Lexer.isWordChar_of_isDigit (h.2 c hc)
  | _ => simp [isOpenEnded] at hopen

theorem written_ne_nil (h : token.isWritable = true) : token.written ≠ [] := by
  cases token with
  | ident word | num word =>
      intro hnil
      have hempty : word.toList = [] := hnil
      simp [isWritable, hempty] at h
  | endOfText => simp [isWritable] at h
  | _ => simp [written, text]

theorem isBlank_ends_written (h : token.isWritable = true) {c : Char}
    (hc : c ∈ token.written.head? ∨ c ∈ token.written.getLast?) : Text.isBlank c = false := by
  cases hopen : token.isOpenEnded with
  | true =>
      have hmem : c ∈ token.written := hc.elim List.mem_of_mem_head? List.mem_of_getLast?
      exact Lexer.isBlank_of_isWordChar (isWordChar_of_mem_written h hopen hmem)
  | false =>
      cases token with
      | ident word | num word => simp [isOpenEnded] at hopen
      | endOfText => simp [isWritable] at h
      | str inner =>
          rw [written, List.head?_cons, ← List.cons_append, List.getLast?_concat] at hc
          obtain rfl : '\'' = c := by simpa using hc
          decide
      | _ =>
          obtain rfl : _ = c := by simpa [written, text] using hc
          decide

theorem not_mem_written (h : token.isWritable = true) : '\n' ∉ token.written := by
  intro hmem
  cases hopen : token.isOpenEnded with
  | true => exact absurd (isWordChar_of_mem_written h hopen hmem) (by decide)
  | false =>
      cases token with
      | ident word | num word => simp [isOpenEnded] at hopen
      | str inner =>
          simp only [written, List.mem_cons, List.mem_append, List.mem_flatMap] at hmem
          rcases hmem with hquote | ⟨c, -, hc⟩ | hquote
          · exact absurd hquote (by decide)
          · exact escape_ne_newline c hc
          · simp at hquote
      | _ => simp [written, text] at hmem

/-! ### The text of several tokens -/

/-- Between two tokens that are tight no blank is written. -/
def isTight (left right : Token) : Bool :=
  match left, right with
  | .leftBracket, _ | _, .rightBracket | _, .comma | _, .colon => true
  | .str _, .dot | .dot, _ | .dash, .num _ => true
  | _, _ => false

/-- The text of the tokens that follow another one, if there is one. -/
def writeAfter (previous : Option Token) : List Token → List Char
  | [] => []
  | token :: rest =>
    (if previous.all (isTight · token) then [] else [' ']) ++ token.written ++
      writeAfter (some token) rest

/-- The text of a list of tokens. -/
def write (tokens : List Token) : List Char :=
  writeAfter none tokens

/-- Behind a word or a number the text goes on with a character that ends it. -/
theorem writeAfter_stops {previous : Token} (hopen : previous.isOpenEnded = true)
    (tokens : List Token) :
    ∀ c ∈ (writeAfter (some previous) tokens).head?, Text.isWordChar c = false ∧ c ≠ '.' := by
  intro c hc
  cases tokens with
  | nil => simp [writeAfter] at hc
  | cons token rest =>
      cases previous with
      | ident word | num word =>
          -- either a blank comes next or one of the signs that need none
          cases token with
          | _ =>
              obtain rfl : _ = c := by simpa [writeAfter, isTight, written, text] using hc
              decide
      | _ => simp [isOpenEnded] at hopen

variable {tokens : List Token} {previous : Option Token}

theorem isBlank_getLast_writeAfter (h : ∀ token ∈ tokens, token.isWritable = true) :
    ∀ c ∈ (writeAfter previous tokens).getLast?, Text.isBlank c = false := by
  induction tokens generalizing previous with
  | nil => simp [writeAfter]
  | cons token rest ih =>
      intro c hc
      have htoken := h token List.mem_cons_self
      rw [writeAfter, List.getLast?_append] at hc
      cases hlast : (writeAfter (some token) rest).getLast? with
      | some last =>
          rw [hlast, Option.some_or] at hc
          exact ih (fun t ht => h t (List.mem_cons_of_mem _ ht)) c (hlast ▸ hc)
      | none =>
          have hwritten := List.getLast?_eq_some_getLast (written_ne_nil htoken)
          rw [hlast, Option.none_or, List.getLast?_append, hwritten, Option.some_or,
            ← hwritten] at hc
          exact isBlank_ends_written htoken (.inr hc)

theorem not_mem_writeAfter
    (h : ∀ token ∈ tokens, token.isWritable = true) : '\n' ∉ writeAfter previous tokens := by
  induction tokens generalizing previous with
  | nil => simp [writeAfter]
  | cons token rest ih =>
      intro hmem
      simp only [writeAfter, List.mem_append, or_assoc] at hmem
      rcases hmem with hgap | hwritten | hrest
      · split at hgap <;> simp at hgap
      · exact not_mem_written (h token List.mem_cons_self) hwritten
      · exact ih (fun t ht => h t (List.mem_cons_of_mem _ ht)) hrest

theorem write_cons (token : Token) (rest : List Token) :
    write (token :: rest) = token.written ++ writeAfter (some token) rest := by
  simp [write, writeAfter]

end Token

/-! ### Reading back -/

namespace Lexer

open Token

/-- Of the characters with a name only the line feed is written by it. -/
theorem escape_eq_spell (c : Char) : escape c = spell '\'' (c = '\n') c := by
  unfold escape spell
  by_cases hbackslash : c = '\\'
  · simp [hbackslash]
  · by_cases hquote : c = '\''
    · simp [hquote]
    · by_cases hnewline : c = '\n' <;> simp [hbackslash, hquote, hnewline]

/-- A string ends at its closing quote, whatever stands in it. -/
theorem takeQuoted?_escape (text rest : List Char) :
    takeQuoted? '\'' (text.flatMap escape ++ '\'' :: rest) = some (text, rest) := by
  have hspelled : text.flatMap escape =
      spelled '\'' (text.map fun c => (c, decide (c = '\n'))) := by
    rw [spelled, List.flatMap_map, funext escape_eq_spell]
  have hquote : isQuote '\'' = true := by decide
  have hread := takeQuoted?_spelled_append hquote (text.map fun c =>
    (c, decide (c = '\n'))) ('\'' :: rest)
  rw [hspelled, hread, takeQuoted?_quote]
  simp [Function.comp_def]

theorem next_written {token : Token} (h : token.isWritable = true) {rest : List Char}
    (hrest : token.isOpenEnded = true →
      ∀ c ∈ rest.head?, Text.isWordChar c = false ∧ c ≠ '.') :
    next (token.written ++ rest) = (.ok token, rest) := by
  cases token with
  | ident word =>
      simp only [isWritable, Bool.and_eq_true, Bool.not_eq_true', List.isEmpty_eq_false_iff,
        List.all_eq_true] at h
      obtain ⟨⟨hne, hword⟩, hdigits⟩ := h
      have hstop : ∀ c ∈ rest.head?, Text.isWordChar c = false := fun c hc => (hrest rfl c hc).1
      simpa [written, text] using next_word hword hstop hne hdigits
  | num digits =>
      simp only [isWritable, Bool.and_eq_true, Bool.not_eq_true', List.isEmpty_eq_false_iff] at h
      simpa [written, text] using next_digits h.1 h.2 (hrest rfl)
  | str inner =>
      have hread := takeQuoted?_escape inner.toList rest
      simpa [written] using next_quote (by decide) hread
  | endOfText => simp [isWritable] at h
  | _ => exact next_sign (by rfl) rest

theorem tokenize_writeAfter {tokens : List Token} {previous : Option Token}
    (h : ∀ token ∈ tokens, token.isWritable = true) :
    tokenize (writeAfter previous tokens) = (tokens ++ [.endOfText], none) := by
  -- what is written before the tokens only decides on a blank, which the lexer skips
  induction tokens generalizing previous with
  | nil => exact tokenize_nil
  | cons token rest ih =>
      have htoken := h token List.mem_cons_self
      have hread : next (token.written ++ writeAfter (some token) rest) =
          (.ok token, writeAfter (some token) rest) :=
        next_written htoken fun hopen => writeAfter_stops hopen rest
      have hnext : next (writeAfter previous (token :: rest)) =
          (.ok token, writeAfter (some token) rest) := by
        rw [writeAfter, List.append_assoc, ← hread]
        split
        · rfl
        · exact next_blank (by decide) _
      have hend : token ≠ .endOfText := by
        rintro rfl
        simp [isWritable] at htoken
      rw [tokenize_of_next hnext hend, ih fun t ht => h t (List.mem_cons_of_mem _ ht)]
      rfl

/-- **What is written is read back.** -/
theorem tokenize_write {tokens : List Token} (h : ∀ token ∈ tokens, token.isWritable = true) :
    tokenize (write tokens) = (tokens ++ [.endOfText], none) :=
  tokenize_writeAfter h

end Lexer

/-! ### Lines of tokens -/

namespace Text

theorem trim_eq_self {text : List Char} (hhead : ∀ c ∈ text.head?, isBlank c = false)
    (hlast : ∀ c ∈ text.getLast?, isBlank c = false) : trim text = text := by
  have hkeep : ∀ l : List Char, (∀ c ∈ l.head?, isBlank c = false) → l.dropWhile isBlank = l := by
    intro l hl
    cases l with
    | nil => rfl
    | cons c rest => simp [hl c rfl]
  rw [trim, hkeep text hhead, hkeep text.reverse (by simpa using hlast), List.reverse_reverse]

/-- Texts without line feeds that each have one behind them are the lines of what they make up, and
an empty line comes last. -/
theorem lines_flatMap {texts : List (List Char)} (h : ∀ text ∈ texts, '\n' ∉ text) :
    lines (texts.flatMap (· ++ ['\n'])) = texts ++ [[]] := by
  induction texts with
  | nil => rfl
  | cons text rest ih =>
      rw [List.flatMap_cons, List.append_assoc, lines, List.singleton_append,
        List.splitOn_append_cons_self_of_not_mem (h text List.mem_cons_self)]
      exact congrArg _ (ih fun t ht => h t (List.mem_cons_of_mem _ ht))

end Text

theorem trim_write {tokens : List Token} (h : ∀ token ∈ tokens, token.isWritable = true) :
    Text.trim (Token.write tokens) = Token.write tokens := by
  refine Text.trim_eq_self ?_ (Token.isBlank_getLast_writeAfter h)
  cases tokens with
  | nil => simp [Token.write, Token.writeAfter]
  | cons token rest =>
      have htoken := h token List.mem_cons_self
      intro c hc
      have hwritten := List.head?_eq_some_head (Token.written_ne_nil htoken)
      rw [Token.write_cons, List.head?_append, hwritten, Option.some_or, ← hwritten] at hc
      exact Token.isBlank_ends_written htoken (.inl hc)

end Dbml
