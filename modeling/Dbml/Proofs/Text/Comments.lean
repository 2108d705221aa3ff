import Mathlib.Data.List.Infix

/-!
# Taking comments out of a text

A comment begins with a slash and two stars, and ends at the first star with a slash behind it.
With it goes the line feed that follows and the indentation behind that.  What begins like a comment
and has no end stays.

A text is looked at that is made of parts, some of which have a comment in front of them.  The
comment is the note of the part between the two signs, whatever the note is.

* `withoutComments_comment_append`: behind the comment for a note the text goes on as if it began
  there, even if the comment ends within the note;
* `withoutComments_append`: a text in which no comment begins that comes to an end stays as it is;
* `Leaves.append`, `Leaves.length_lt`: no text gets longer, and one in which such a comment begins
  gets shorter.

So if each comment alone vanishes, or none begins in the other texts, taking the comments out leaves
the texts of the parts just if both is so (`withoutComments_commented_iff`).
-/

namespace Dbml.Text

/-! ### Comments -/

/-- What stands behind the first end of a comment. -/
def behindEnd? : List Char → Option (List Char)
  | [] => none
  | c :: rest => if c = '*' ∧ rest.head? = some '/' then some rest.tail else behindEnd? rest

/-- What stands behind the comment that the text begins with. -/
def behindComment? (text : List Char) : Option (List Char) :=
  if "/**".toList.isPrefixOf text then behindEnd? (text.drop 3) else none

/-- The text without the line feed that it may begin with and the indentation behind that. -/
def dropIndent (text : List Char) : List Char :=
  if text.head? = some '\n' then text.tail.dropWhile (· = ' ') else text

theorem length_behindEnd?_lt {text rest : List Char} (h : behindEnd? text = some rest) :
    rest.length < text.length := by
  induction text with
  | nil => contradiction
  | cons c more ih =>
      rw [behindEnd?] at h
      split at h
      · cases h
        rw [List.length_tail, List.length_cons]
        omega
      · exact Nat.lt_succ_of_lt (ih h)

theorem dropIndent_suffix (text : List Char) : dropIndent text <:+ text := by
  rw [dropIndent]
  split
  · exact (List.dropWhile_suffix _).trans (List.tail_suffix text)
  · exact List.suffix_refl text

theorem length_behindComment?_lt {text rest : List Char} (h : behindComment? text = some rest) :
    (dropIndent rest).length < text.length := by
  rw [behindComment?] at h
  split at h
  · have hend := length_behindEnd?_lt h
    have hindent := (dropIndent_suffix rest).length_le
    rw [List.length_drop] at hend
    omega
  · contradiction

/-- The text without its comments. -/
def withoutComments : List Char → List Char
  | [] => []
  | c :: rest =>
    match _hafter : behindComment? (c :: rest) with
    | some after => withoutComments (dropIndent after)
    | none => c :: withoutComments rest
termination_by text => text.length
decreasing_by
  · exact length_behindComment?_lt ‹_›
  · exact Nat.lt_succ_self _

theorem withoutComments_nil : withoutComments [] = [] := by
  rw [withoutComments]

theorem withoutComments_of_comment {text after : List Char} (h : behindComment? text = some after) :
    withoutComments text = withoutComments (dropIndent after) := by
  cases text with
  | nil => contradiction
  | cons c rest =>
      rw [withoutComments]
      split
      · rename_i hafter
        cases h.symm.trans hafter
        rfl
      · rename_i hnone
        cases h.symm.trans hnone

theorem withoutComments_cons {c : Char} {rest : List Char} (h : behindComment? (c :: rest) = none) :
    withoutComments (c :: rest) = c :: withoutComments rest := by
  rw [withoutComments]
  split
  · rename_i hsome
    cases h.symm.trans hsome
  · rfl

/-! ### Ends of comments -/

/-- There is an end of a comment just if its two signs occur. -/
theorem isSome_behindEnd?_iff {text : List Char} :
    (behindEnd? text).isSome = true ↔ "*/".toList <:+: text := by
  induction text with
  | nil => exact iff_of_false (by simp [behindEnd?]) (by simp)
  | cons c rest ih =>
      rw [behindEnd?, List.infix_cons_iff]
      by_cases hend : c = '*' ∧ rest.head? = some '/'
      · rw [if_pos hend]
        obtain ⟨rfl, hhead⟩ := hend
        refine iff_of_true rfl (.inl ?_)
        obtain ⟨more, rfl⟩ := List.head?_eq_some_iff.mp hhead
        exact ⟨more, rfl⟩
      · rw [if_neg hend, ih]
        refine (or_iff_right ?_).symm
        rintro ⟨more, hmore⟩
        cases hmore
        exact hend ⟨rfl, rfl⟩

/-- The end of a comment is in the first of two texts or in the second one, if the first one does
not break off within it. -/
theorem behindEnd?_append {text : List Char} (hlast : ∀ c ∈ text.getLast?, c ≠ '*')
    (more : List Char) :
    behindEnd? (text ++ more) =
      match behindEnd? text with
      | some rest => some (rest ++ more)
      | none => behindEnd? more := by
  induction text with
  | nil => rfl
  | cons c rest ih =>
      cases rest with
      | nil =>
          have hc : c ≠ '*' := hlast c rfl
          simp [behindEnd?, hc]
      | cons d rest =>
          have hstep := ih (by simpa using hlast)
          rw [List.cons_append, behindEnd?, behindEnd?]
          by_cases hend : c = '*' ∧ d = '/'
          · simp [hend]
          · have hneg : ¬ (c = '*' ∧ (d :: rest).head? = some '/') := by simpa using hend
            have hneg' : ¬ (c = '*' ∧ (d :: rest ++ more).head? = some '/') := by simpa using hend
            rw [if_neg hneg, if_neg hneg', hstep]

theorem behindEnd?_suffix {text rest : List Char} (h : behindEnd? text = some rest) :
    rest <:+ text := by
  induction text with
  | nil => contradiction
  | cons c more ih =>
      rw [behindEnd?] at h
      split at h
      · cases h
        exact (List.tail_suffix more).trans (List.suffix_cons c more)
      · exact (ih h).trans (List.suffix_cons c more)

/-! ### Beginnings and ends of texts -/

/-- The text begins with no indentation. -/
def Unindented (text : List Char) : Prop :=
  ∀ c ∈ text.head?, c ≠ ' ' ∧ c ≠ '\n'

/-- The text begins with nothing that goes with a comment in front of it. -/
structure Fresh (text : List Char) : Prop where
  unindented : Unindented text
  no_star : ∀ c ∈ text.head?, c ≠ '*'

/-- The text does not break off within a sign of a comment. -/
def Finished (text : List Char) : Prop :=
  ∀ c ∈ text.getLast?, c ≠ '*'

theorem Fresh.nil : Fresh [] where
  unindented := nofun
  no_star := nofun

theorem Fresh.append {text : List Char} (h : Fresh text) (hne : text ≠ []) (more : List Char) :
    Fresh (text ++ more) := by
  obtain ⟨c, rest, rfl⟩ := List.exists_cons_of_ne_nil hne
  exact ⟨h.unindented, h.no_star⟩

theorem Finished.suffix {text rest : List Char} (h : Finished text) (hrest : rest <:+ text) :
    Finished rest := by
  intro c hc
  obtain ⟨front, rfl⟩ := hrest
  exact h c (List.mem_getLast?_append_of_mem_getLast? hc)

theorem Finished.append {more : List Char} (h : Finished more) (hne : more ≠ [])
    (text : List Char) :
    Finished (text ++ more) := by
  intro c hc
  rw [List.getLast?_append_of_ne_nil text hne] at hc
  exact h c hc

theorem dropIndent_append (text : List Char) : ∃ rest, rest <:+ text ∧
    ∀ more, Unindented more → dropIndent (text ++ more) = rest ++ more := by
  have hstop : ∀ blanks : List Char, ∃ rest, rest <:+ blanks ∧
      ∀ more, Unindented more → (blanks ++ more).dropWhile (· = ' ') = rest ++ more := by
    intro blanks
    induction blanks with
    | nil =>
        refine ⟨[], List.suffix_refl [], fun more hmore => ?_⟩
        cases more with
        | nil => rfl
        | cons c rest => simp [(hmore c rfl).1]
    | cons c blanks ih =>
        obtain ⟨rest, hrest, hdrop⟩ := ih
        by_cases hc : c = ' '
        · exact ⟨rest, hrest.trans (List.suffix_cons c blanks), fun more hmore => by
            simpa [hc] using hdrop more hmore⟩
        · exact ⟨c :: blanks, List.suffix_refl _, fun more _ => by simp [hc]⟩
  cases text with
  | nil =>
      refine ⟨[], List.suffix_refl [], fun more hmore => ?_⟩
      cases more with
      | nil => rfl
      | cons c rest => simp [dropIndent, (hmore c rfl).2]
  | cons c text =>
      by_cases hc : c = '\n'
      · obtain ⟨rest, hrest, hdrop⟩ := hstop text
        exact ⟨rest, hrest.trans (List.suffix_cons c text), fun more hmore => by
          simpa [dropIndent, hc] using hdrop more hmore⟩
      · exact ⟨c :: text, List.suffix_refl _, fun more _ => by simp [dropIndent, hc]⟩

theorem dropIndent_indent {more : List Char} (h : Unindented more) :
    dropIndent ("\n  ".toList ++ more) = more := by
  cases more with
  | nil => rfl
  | cons c rest => simp [dropIndent, (h c rfl).1]

theorem behindComment?_opening (text : List Char) :
    behindComment? ("/**".toList ++ text) = behindEnd? text := by
  simp [behindComment?]

theorem behindComment?_append_eq_none {text more : List Char} (hne : text ≠ [])
    (hopening : ¬ "/**".toList <+: text) (hlast : ¬ "/*".toList <:+ text)
    (hmore : ¬ "**".toList <+: more) :
    behindComment? (text ++ more) = none := by
  rw [behindComment?, if_neg]
  rw [List.isPrefixOf_iff_prefix]
  intro hprefix
  match text with
  | [] => exact hne rfl
  | [c] =>
      obtain ⟨rest, hrest⟩ := hprefix
      refine hmore ⟨rest, ?_⟩
      exact (List.cons.inj hrest).2
  | [c, d] =>
      obtain ⟨rest, hrest⟩ := hprefix
      cases (List.cons.inj hrest).1
      cases (List.cons.inj (List.cons.inj hrest).2).1
      exact hlast (List.suffix_refl _)
  | c :: d :: e :: text =>
      refine hopening ?_
      obtain ⟨rest, hrest⟩ := hprefix
      cases (List.cons.inj hrest).1
      cases (List.cons.inj (List.cons.inj hrest).2).1
      cases (List.cons.inj (List.cons.inj (List.cons.inj hrest).2).2).1
      exact ⟨text, rfl⟩

/-! ### Comments for notes -/

/-- The comment for a note, up to what it stands in front of. -/
def comment (note : List Char) : List Char :=
  "/** ".toList ++ note ++ " */\n  ".toList

/-- The end of the comment for a note. -/
def ending : List Char :=
  "*/\n  ".toList

theorem comment_eq (note : List Char) :
    comment note = ("/** ".toList ++ note ++ " ".toList) ++ ending := by
  have hspace : " */\n  ".toList = " ".toList ++ ending := by decide
  rw [comment, hspace, List.append_assoc]
  simp only [List.append_assoc]

/-- In front of an end some comment ends, if not there, then earlier. -/
theorem behindEnd?_append_ending (text : List Char) :
    (∀ more, behindEnd? (text ++ (ending ++ more)) = some ("\n  ".toList ++ more)) ∨
      ∃ rest, rest <:+ text ∧
        ∀ more, behindEnd? (text ++ (ending ++ more)) = some (rest ++ (ending ++ more)) := by
  induction text with
  | nil => exact .inl fun more => by simp [behindEnd?, ending]
  | cons c text ih =>
      by_cases hend : c = '*' ∧ text.head? = some '/'
      · obtain ⟨rfl, hhead⟩ := hend
        obtain ⟨rest, rfl⟩ := List.head?_eq_some_iff.mp hhead
        exact .inr ⟨rest, ⟨['*', '/'], rfl⟩, fun more => by simp [behindEnd?]⟩
      · have hskip : ∀ more, behindEnd? (c :: text ++ (ending ++ more)) =
            behindEnd? (text ++ (ending ++ more)) := by
          intro more
          rw [List.cons_append, behindEnd?, if_neg]
          cases text with
          | nil => simp [ending]
          | cons d rest => simpa using hend
        rcases ih with hthere | ⟨rest, hrest, hearlier⟩
        · exact .inl fun more => (hskip more).trans (hthere more)
        · exact .inr ⟨rest, hrest.trans (List.suffix_cons c text), fun more =>
            (hskip more).trans (hearlier more)⟩

theorem unindented_ending (more : List Char) : Unindented (ending ++ more) := by
  intro c hc
  cases hc
  decide

theorem withoutComments_ending (more : List Char) :
    withoutComments (ending ++ more) = ending ++ withoutComments more := by
  have hskip : ∀ c rest, behindComment? (c :: rest) = none →
      withoutComments (c :: rest) = c :: withoutComments rest := fun _ _ => withoutComments_cons
  calc
    withoutComments (ending ++ more)
      = '*' :: withoutComments ('/' :: '\n' :: ' ' :: ' ' :: more) := hskip _ _ rfl
    _ = '*' :: '/' :: withoutComments ('\n' :: ' ' :: ' ' :: more) := by rw [hskip _ _ rfl]
    _ = '*' :: '/' :: '\n' :: withoutComments (' ' :: ' ' :: more) := by rw [hskip _ _ rfl]
    _ = '*' :: '/' :: '\n' :: ' ' :: withoutComments (' ' :: more) := by rw [hskip _ _ rfl]
    _ = ending ++ withoutComments more := by rw [hskip _ _ rfl]; rfl

/-- A comment in front of an end goes up to there, or a text in front of the end is left. -/
theorem withoutComments_opening (inner : List Char) :
    (∀ more, Fresh more →
      withoutComments ("/**".toList ++ inner ++ (ending ++ more)) = withoutComments more) ∨
    ∃ rest, rest <:+ inner ∧ ∀ more,
      withoutComments ("/**".toList ++ inner ++ (ending ++ more)) =
        withoutComments (rest ++ (ending ++ more)) := by
  have hbehind : ∀ more, behindComment? ("/**".toList ++ inner ++ (ending ++ more)) =
      behindEnd? (inner ++ (ending ++ more)) := by
    intro more
    rw [List.append_assoc, behindComment?_opening]
  rcases behindEnd?_append_ending inner with hthere | ⟨rest, hrest, hearlier⟩
  · refine .inl fun more hmore => ?_
    rw [withoutComments_of_comment ((hbehind more).trans (hthere more)),
      dropIndent_indent hmore.unindented]
  · obtain ⟨rest', hrest', hdrop⟩ := dropIndent_append rest
    refine .inr ⟨rest', hrest'.trans hrest, fun more => ?_⟩
    rw [withoutComments_of_comment ((hbehind more).trans (hearlier more)),
      hdrop _ (unindented_ending more)]

/-- Whatever comments there are in front of an end, a text behind it begins with none of them. -/
theorem withoutComments_append_ending {text more : List Char} (hlast : ¬ "/*".toList <:+ text)
    (hmore : Fresh more) :
    withoutComments (text ++ (ending ++ more)) =
      withoutComments (text ++ (ending ++ [])) ++ withoutComments more := by
  -- behind a comment that ends early what is left is no tail that a step leads to, so lengths are
  -- compared
  induction hlength : text.length using Nat.strong_induction_on generalizing text with
  | _ n ih =>
    subst hlength
    cases text with
    | nil =>
        rw [List.nil_append, List.nil_append, withoutComments_ending, withoutComments_ending,
          withoutComments_nil, List.append_nil]
    | cons c text =>
        by_cases hopening : "/**".toList <+: c :: text
        · obtain ⟨inner, hinner⟩ := hopening
          rw [← hinner]
          rcases withoutComments_opening inner with hgone | ⟨rest, hrest, hleft⟩
          · rw [hgone more hmore, hgone [] Fresh.nil, withoutComments_nil, List.nil_append]
          · have hsuffix : rest <:+ c :: text := by
              rw [← hinner]
              exact hrest.trans (List.suffix_append _ _)
            have hshorter : rest.length < (c :: text).length := by
              rw [← hinner, List.length_append]
              exact Nat.lt_of_le_of_lt hrest.length_le (Nat.lt_add_of_pos_left (by decide))
            rw [hleft more, hleft []]
            exact ih _ hshorter (fun hstar => hlast (hstar.trans hsuffix)) rfl
        · have hskip : ∀ more, withoutComments (c :: text ++ (ending ++ more)) =
              c :: withoutComments (text ++ (ending ++ more)) := by
            intro more
            refine withoutComments_cons ?_
            refine behindComment?_append_eq_none (List.cons_ne_nil c text) hopening hlast ?_
            rintro ⟨rest, hrest⟩
            cases hrest
          rw [hskip more, hskip [], List.cons_append]
          refine congrArg (c :: ·) (ih _ (Nat.lt_succ_self _) ?_ rfl)
          exact fun hstar => hlast (hstar.trans (List.suffix_cons c text))

/-- Behind the comment for a note a text goes on as if it began there. -/
theorem withoutComments_comment_append (note : List Char) {more : List Char} (hmore : Fresh more) :
    withoutComments (comment note ++ more) =
      withoutComments (comment note) ++ withoutComments more := by
  have hlast : ¬ "/*".toList <:+ "/** ".toList ++ note ++ " ".toList := by
    rintro ⟨front, hfront⟩
    have hchar := congrArg List.getLast? hfront
    rw [List.getLast?_append, List.getLast?_append] at hchar
    cases hchar
  have hsplit := withoutComments_append_ending hlast hmore
  rw [List.append_nil] at hsplit
  rw [comment_eq, List.append_assoc]
  exact hsplit

theorem behindComment?_comment_append (note more : List Char) :
    behindComment? (comment note ++ more) = behindEnd? (comment note ++ more) := by
  simp [comment, behindComment?, behindEnd?]

theorem withoutComments_comment_of_not_infix {note : List Char} (h : ¬ "*/".toList <:+: note) :
    withoutComments (comment note) = [] := by
  obtain ⟨inner, hinner⟩ : ∃ inner, inner = " ".toList ++ note ++ " ".toList := ⟨_, rfl⟩
  have hcomment : comment note = "/**".toList ++ (inner ++ ending) := by
    have hopening : "/** ".toList = "/**".toList ++ " ".toList := by decide
    rw [comment_eq, hinner, hopening]
    simp only [List.append_assoc]
  have hnone : behindEnd? inner = none := by
    rw [← Option.not_isSome_iff_eq_none, isSome_behindEnd?_iff, hinner]
    intro hinfix
    rcases List.infix_concat_iff.mp hinfix with ⟨front, hlast⟩ | hfirst
    · have hslash := congrArg List.getLast? hlast
      rw [List.getLast?_append, List.getLast?_append] at hslash
      cases hslash
    · rcases List.infix_cons_iff.mp hfirst with ⟨rest, hrest⟩ | hnote
      · cases (List.cons.inj hrest).1
      · exact h hnote
  have hfinished : Finished inner := by
    intro c hc
    rw [hinner, List.getLast?_append] at hc
    cases hc
    decide
  have hbehind : behindComment? (comment note) = some "\n  ".toList := by
    rw [hcomment, behindComment?_opening, behindEnd?_append hfinished, hnone]
    rfl
  rw [withoutComments_of_comment hbehind, ← List.append_nil "\n  ".toList,
    dropIndent_indent Fresh.nil.unindented, withoutComments_nil]

/-! ### Texts with notes -/

/-- A text that has a comment in front of it if there is a note on it. -/
structure Part where
  note : Option (List Char)
  text : List Char

/-- The comment of a part. -/
def Part.comment (part : Part) : List Char :=
  part.note.elim [] Text.comment

/-- The texts of several parts. -/
def plain (parts : List Part) : List Char :=
  parts.flatMap Part.text

/-- The texts of several parts with their comments. -/
def commented (parts : List Part) : List Char :=
  parts.flatMap fun part => part.comment ++ part.text

/-- The text can be told from comments in front of it and behind it. -/
structure Part.Apart (part : Part) : Prop where
  fresh : Fresh part.text
  finished : Finished part.text
  nonempty : part.text ≠ []

/-- No comment that begins in the text ends in it or behind it. -/
def OpensNothing (text more : List Char) : Prop :=
  ∀ front inner, text = front ++ ("/**".toList ++ inner) → ¬ "*/".toList <:+: inner ++ more

/-- No comment that begins in one of the texts ends in it or behind it. -/
def AllOpenNothing : List Part → Prop
  | [] => True
  | part :: rest => OpensNothing part.text (commented rest) ∧ AllOpenNothing rest

theorem Finished.not_suffix {text : List Char} (h : Finished text) : ¬ "/*".toList <:+ text := by
  rintro ⟨front, rfl⟩
  exact h '*' (by rw [List.getLast?_append]; rfl) rfl

theorem Fresh.not_prefix {text : List Char} (h : Fresh text) : ¬ "**".toList <+: text := by
  rintro ⟨rest, rfl⟩
  exact h.no_star '*' rfl rfl

/-- The first of two texts begins with no comment that ends, or with one that ends in it or behind
it. -/
theorem behindComment?_append_cases {text more : List Char} (hne : text ≠ [])
    (hfinished : Finished text) (hmore : Fresh more) :
    behindComment? (text ++ more) = none ∨
      ∃ inner rest, text = "/**".toList ++ inner ∧ behindEnd? (inner ++ more) = some rest ∧
        behindComment? (text ++ more) = some rest := by
  by_cases hopening : "/**".toList <+: text
  · obtain ⟨inner, rfl⟩ := hopening
    rw [List.append_assoc, behindComment?_opening]
    cases hend : behindEnd? (inner ++ more) with
    | none => exact .inl rfl
    | some rest => exact .inr ⟨inner, rest, rfl, hend, rfl⟩
  · exact .inl (behindComment?_append_eq_none hne hopening hfinished.not_suffix hmore.not_prefix)

/-- A text in which no comment begins that ends stays as it is. -/
theorem withoutComments_append {text more : List Char} (hfinished : Finished text)
    (hmore : Fresh more) (hopens : OpensNothing text more) :
    withoutComments (text ++ more) = text ++ withoutComments more := by
  induction text with
  | nil => rfl
  | cons c text ih =>
      rcases behindComment?_append_cases (List.cons_ne_nil c text) hfinished hmore with
        hnone | ⟨inner, rest, hinner, hend, -⟩
      · have hrest := ih (hfinished.suffix (List.suffix_cons c text)) (by
          rintro front inner rfl
          exact hopens (c :: front) inner rfl)
        exact (withoutComments_cons hnone).trans (congrArg (c :: ·) hrest)
      · have hinfix := isSome_behindEnd?_iff.mp (Option.isSome_of_mem hend)
        exact absurd hinfix (hopens [] inner hinner)

/-- Taking the comments out leaves no more than the given number of characters, also if a comment in
front of the text ends in it. -/
structure Leaves (text : List Char) (number : Nat) : Prop where
  all : (withoutComments text).length ≤ number
  behindEnd : ∀ rest, behindEnd? text = some rest →
    (withoutComments (dropIndent rest)).length ≤ number

/-- Of a text no more is left than it has characters, and what is left behind it. -/
theorem Leaves.append {text more : List Char} {number : Nat} (hmore : Leaves more number)
    (hfresh : Fresh more) (hfinished : Finished text) :
      Leaves (text ++ more) (text.length + number) := by
  -- each of the two bounds is had for a text from the other one for a shorter text
  induction hlength : text.length using Nat.strong_induction_on generalizing text with
  | _ n ih =>
    subst hlength
    constructor
    · cases text with
      | nil => simpa using hmore.all
      | cons c text =>
          rcases behindComment?_append_cases (List.cons_ne_nil c text) hfinished hfresh with
            hnone | ⟨inner, rest, hinner, hend, hcomment⟩
          · have hrest := (ih _ (Nat.lt_succ_self _)
              (hfinished.suffix (List.suffix_cons c text)) rfl).all
            have hcons : withoutComments (c :: text ++ more) =
              c :: withoutComments (text ++ more) :=
              withoutComments_cons hnone
            rw [hcons, List.length_cons, List.length_cons]
            omega
          · have hshorter : (c :: text).length = 3 + inner.length := by
              rw [hinner, List.length_append]; rfl
            have hsuffix : inner <:+ c :: text := ⟨_, hinner.symm⟩
            have hrest :=
              (ih inner.length (by omega) (hfinished.suffix hsuffix) rfl).behindEnd rest hend
            rw [withoutComments_of_comment hcomment]
            omega
    · intro rest hrest
      rw [behindEnd?_append hfinished] at hrest
      split at hrest
      · rename_i left hleft
        cases hrest
        obtain ⟨left', hleft', hdrop⟩ := dropIndent_append left
        have hshorter := length_behindEnd?_lt hleft
        have hlength := hleft'.length_le
        have hsuffix : left' <:+ text := hleft'.trans (behindEnd?_suffix hleft)
        have hrest := (ih left'.length (by omega) (hfinished.suffix hsuffix) rfl).all
        rw [hdrop more hfresh.unindented]
        omega
      · have hrest := hmore.behindEnd rest hrest
        omega

theorem Leaves.length_lt {text more : List Char} {number : Nat} (hmore : Leaves more number)
    (hfresh : Fresh more) (hfinished : Finished text) (hopens : ¬ OpensNothing text more) :
    (withoutComments (text ++ more)).length < text.length + number := by
  induction text with
  | nil =>
      refine absurd ?_ hopens
      intro front inner hnil
      simp at hnil
  | cons c text ih =>
      rcases behindComment?_append_cases (List.cons_ne_nil c text) hfinished hfresh with
        hnone | ⟨inner, rest, hinner, hend, hcomment⟩
      · have hrest := ih (hfinished.suffix (List.suffix_cons c text)) (by
          intro hrest
          refine hopens ?_
          intro front inner hfront
          cases front with
          | nil =>
              intro hinfix
              have hsome := isSome_behindEnd?_iff.mpr hinfix
              rw [hfront, List.nil_append, List.append_assoc, behindComment?_opening] at hnone
              rw [hnone] at hsome
              contradiction
          | cons d front => exact hrest front inner (List.cons.inj hfront).2)
        have hcons : withoutComments (c :: text ++ more) = c :: withoutComments (text ++ more) :=
          withoutComments_cons hnone
        rw [hcons, List.length_cons, List.length_cons]
        omega
      · have hshorter : (c :: text).length = 3 + inner.length := by
          rw [hinner, List.length_append]; rfl
        have hsuffix : inner <:+ c :: text := ⟨_, hinner.symm⟩
        have hrest := (hmore.append hfresh (hfinished.suffix hsuffix)).behindEnd rest hend
        rw [withoutComments_of_comment hcomment]
        omega

/-! ### Taking out all comments -/

variable {parts : List Part}

theorem fresh_commented (h : ∀ part ∈ parts, part.Apart) : Fresh (commented parts) := by
  cases parts with
  | nil => exact Fresh.nil
  | cons part rest =>
      have hpart := h part List.mem_cons_self
      rw [commented, List.flatMap_cons, List.append_assoc]
      cases hnote : part.note with
      | none =>
          rw [Part.comment, hnote]
          exact hpart.fresh.append hpart.nonempty _
      | some note =>
          rw [Part.comment, hnote]
          constructor <;> intro c hc <;> cases hc <;> decide

theorem withoutComments_part {part : Part} {more : List Char} (h : part.Apart) :
    withoutComments (part.comment ++ part.text ++ more) =
      withoutComments part.comment ++ withoutComments (part.text ++ more) := by
  rw [List.append_assoc, Part.comment]
  cases part.note with
  | none => rw [Option.elim_none, List.nil_append, withoutComments_nil, List.nil_append]
  | some note => exact withoutComments_comment_append note (h.fresh.append h.nonempty more)

theorem comments_vanish_iff :
    (∀ part ∈ parts, withoutComments part.comment = []) ↔
      ∀ note ∈ parts.filterMap Part.note, withoutComments (comment note) = [] := by
  constructor
  · intro h note hnote
    obtain ⟨part, hpart, hsome⟩ := List.mem_filterMap.mp hnote
    have hcomment := h part hpart
    rwa [Part.comment, hsome] at hcomment
  · intro h part hpart
    rw [Part.comment]
    cases hnote : part.note with
    | none => exact withoutComments_nil
    | some note => exact h note (List.mem_filterMap.mpr ⟨part, hpart, hnote⟩)

/-- If no comment begins in the texts, taking the comments out leaves the texts with what is left of
the comments. -/
theorem withoutComments_commented (h : ∀ part ∈ parts, part.Apart) (hopen : AllOpenNothing parts) :
    withoutComments (commented parts) =
      parts.flatMap fun part => withoutComments part.comment ++ part.text := by
  induction parts with
  | nil => exact withoutComments_nil
  | cons part rest ih =>
      obtain ⟨hpart, hrest⟩ := List.forall_mem_cons.mp h
      calc
        withoutComments (commented (part :: rest))
          = withoutComments part.comment ++ withoutComments (part.text ++ commented rest) :=
            withoutComments_part hpart
        _ = withoutComments part.comment ++ (part.text ++ withoutComments (commented rest)) := by
            rw [withoutComments_append hpart.finished (fresh_commented hrest) hopen.1]
        _ = _ := by rw [ih hrest hopen.2, List.flatMap_cons, List.append_assoc]

/-- If all comments alone vanish, taking the comments out leaves no more than the texts, and less if
a comment begins in one of them. -/
theorem leaves_commented (h : ∀ part ∈ parts, part.Apart)
    (hgone : ∀ part ∈ parts, withoutComments part.comment = []) :
    Leaves (commented parts) (plain parts).length ∧
      ((withoutComments (commented parts)).length = (plain parts).length →
        AllOpenNothing parts) := by
  induction parts with
  | nil =>
      refine ⟨⟨?_, nofun⟩, fun _ => trivial⟩
      rw [commented, plain, List.flatMap_nil, List.flatMap_nil, withoutComments_nil]
  | cons part rest ih =>
      obtain ⟨hpart, hrest⟩ := List.forall_mem_cons.mp h
      obtain ⟨hpartGone, hrestGone⟩ := List.forall_mem_cons.mp hgone
      obtain ⟨hleaves, hopen⟩ := ih hrest hrestGone
      have hfresh := fresh_commented hrest
      have htext := hleaves.append hfresh hpart.finished
      have hplain : (plain (part :: rest)).length = part.text.length + (plain rest).length := by
        rw [plain, List.flatMap_cons, List.length_append, plain]
      have hall : withoutComments (commented (part :: rest)) =
          withoutComments (part.text ++ commented rest) := by
        have hsplit := @withoutComments_part part (commented rest) hpart
        rw [hpartGone, List.nil_append] at hsplit
        exact hsplit
      rw [hplain]
      refine ⟨⟨hall ▸ htext.all, fun left hleft => ?_⟩, fun hlength => ?_⟩
      · rw [commented, List.flatMap_cons, List.append_assoc, ← commented] at hleft hall
        cases hnote : part.note with
        | none =>
            rw [Part.comment, hnote] at hleft
            exact htext.behindEnd left hleft
        | some note =>
            -- the comment that ends is the one for the note, which leaves nothing
            have hcomment : part.comment = comment note := by rw [Part.comment, hnote]; rfl
            rw [hcomment] at hleft hall
            rw [← behindComment?_comment_append] at hleft
            rw [← withoutComments_of_comment hleft, hall]
            exact htext.all
      · rw [hall] at hlength
        have hhere : OpensNothing part.text (commented rest) := by
          by_contra hopens
          have hlt := hleaves.length_lt hfresh hpart.finished hopens
          omega
        rw [withoutComments_append hpart.finished hfresh hhere, List.length_append] at hlength
        exact ⟨hhere, hopen (Nat.add_left_cancel hlength)⟩

/-- What is left behind comments is the texts alone just if no comment leaves anything. -/
theorem flatMap_eq_plain_iff {left : Part → List Char} :
    (parts.flatMap fun part => left part ++ part.text) = plain parts ↔
      ∀ part ∈ parts, left part = [] := by
  have hlength : (parts.flatMap fun part => left part ++ part.text).length =
      (parts.flatMap left).length + (plain parts).length := by
    induction parts with
    | nil => rfl
    | cons part rest ih =>
        simp only [plain, List.flatMap_cons, List.length_append] at ih ⊢
        omega
  constructor
  · intro h
    rw [h] at hlength
    have hnil : parts.flatMap left = [] := List.length_eq_zero_iff.mp (by omega)
    exact fun part hpart => List.flatMap_eq_nil_iff.mp hnil part hpart
  · intro h
    exact List.flatMap_congr fun part hpart => by rw [h part hpart, List.nil_append]

/-- **Taking out the comments for notes.**  If each comment alone vanishes, or none begins in the
texts, then taking all comments out leaves the texts just if both is so. -/
theorem withoutComments_commented_iff (h : ∀ part ∈ parts, part.Apart)
    (heither : (∀ part ∈ parts, withoutComments part.comment = []) ∨ AllOpenNothing parts) :
    withoutComments (commented parts) = plain parts ↔
      (∀ part ∈ parts, withoutComments part.comment = []) ∧ AllOpenNothing parts := by
  rcases heither with hgone | hopen
  · refine ⟨fun heq => ⟨hgone, (leaves_commented h hgone).2 (congrArg List.length heq)⟩, ?_⟩
    rintro ⟨-, hopen⟩
    rw [withoutComments_commented h hopen]
    exact flatMap_eq_plain_iff.mpr hgone
  · rw [withoutComments_commented h hopen, flatMap_eq_plain_iff]
    exact (and_iff_left hopen).symm

theorem allOpenNothing_of_not_infix (h : ¬ "/**".toList <:+: plain parts) :
    AllOpenNothing parts := by
  induction parts with
  | nil => trivial
  | cons part rest ih =>
      rw [plain, List.flatMap_cons] at h
      refine ⟨?_, ih fun hrest => h (hrest.trans (List.suffix_append _ _).isInfix)⟩
      rintro front inner hfront -
      refine h ⟨front, inner ++ plain rest, ?_⟩
      rw [hfront, plain]
      simp only [List.append_assoc]

end Dbml.Text
