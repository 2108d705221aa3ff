import Mathlib.Data.List.Forall2
import Dbml.Proofs.Schema.OtherTables
import Dbml.Proofs.TypeOrm.PropertyTexts

/-!
# The two sides of a relation between entities

A foreign key is written down twice: in the entity of its own table, and in that of the table which
it refers to.  The two are made in different places, the first from the columns of the table, the
second in a search of all other tables.  Either names the other one in its decorator.

* `areSides_relationProperty`: what is written for one key on its two sides;
* `columnText?_of_mem_relationKeys`: each key to another table is written in the entity of its own.

`entity_sides_agree` finds both sides of all keys in the files of two entities.
-/

namespace Dbml.TypeOrm

/-- The texts of two properties are the sides of the relation that a foreign key of the table `a` to
the table `b` makes: in the decorator of each, the name behind the dot is the one that the other
declares. -/
def AreSides (options : GeneratorOptions) (a b : Table) (key : Column × Reference)
    (own back : String) : Prop :=
  ∃ ownName backName,
    own = commentText (options.comment? key.1) ++
        relationText (if key.1.isOneToOneKey then "OneToOne" else "ManyToOne")
          (Naming.className b.name) backName (actionsText key.2) ++
        "\n  @JoinColumn(\x7b name: '" ++ key.1.name ++ "' \x7d)\n  " ++
        ownName ++ ": " ++ Naming.className b.name ++ ";" ∧
    back =
      relationText (if key.1.isOneToOneKey then "OneToOne" else "OneToMany")
          (Naming.className a.name) ownName "" ++
        "\n  " ++ backName ++ ": " ++ Naming.className a.name ++
          (if key.1.isOneToOneKey then "" else "[]") ++ ";"

variable {options : GeneratorOptions} {schema : Schema} {table target a b : Table}

theorem areSides_relationProperty (options : GeneratorOptions) (a b : Table)
    (key : Column × Reference) :
    AreSides options a b key (relationProperty options a key.1 key.2 b).text
      (reverseProperty b a key.1).text :=
  ⟨_, _, text_relationProperty options a key.1 key.2 b, text_reverseProperty b a key.1⟩

theorem columnProperty?_of_mem_relationKeys (htarget : schema.table? target.name = some target)
    {key : Column × Reference} (hkey : key ∈ relationKeys table target) :
    columnProperty? options schema table key.1 =
      some (relationProperty options table key.1 key.2 target) := by
  obtain ⟨hmem, hrelation⟩ := List.mem_filter.mp hkey
  obtain ⟨column, -, hcolumn⟩ := List.mem_filterMap.mp hmem
  obtain ⟨reference, hreference, rfl⟩ := Option.map_eq_some_iff.mp hcolumn
  rw [isRelationKey, Bool.and_eq_true, decide_eq_true_eq, Bool.not_eq_true'] at hrelation
  have hvalue : holdsValue column = false := by rw [holdsValue, hreference, hrelation.2]; rfl
  rw [columnProperty?_of_not_holdsValue hvalue, hreference, Option.bind_some, hrelation.1, htarget,
    Option.map_some]

/-- A key to another table is written in the entity of its own. -/
theorem columnText?_of_mem_relationKeys (htarget : schema.table? target.name = some target)
    {key : Column × Reference} (hkey : key ∈ relationKeys table target) :
    columnText? options schema table key.1 =
      some (relationProperty options table key.1 key.2 target).text := by
  rw [columnText?, columnProperty?_of_mem_relationKeys htarget hkey, Option.map_some]

/-- **The two sides of a relation agree.**  The file of a table has the texts for its columns and
then those for the other direction, table by table.  The columns of a table that refer to another
one, but for the many-to-many keys of its primary key, correspond in their order to the texts that
the file of the other table has for this one.  Of each two either both are one-to-one, or the first
is many-to-one and the second one-to-many, and the accessor in the decorator of either is the name
that the other one declares. -/
theorem entity_sides_agree (options : GeneratorOptions)
    (hnames : (schema.tables.map (·.name)).Nodup) (ha : a ∈ schema.tables) (hb : b ∈ schema.tables)
    (hne : a ≠ b) :
    IsEntityText a.name
        (a.columns.filterMap (columnText? options schema a) ++
          (schema.tables.filter (·.name ≠ a.name)).flatMap (reverseTexts a))
        (entity options schema a).value.text ∧
      (∃ before after, schema.tables.filter (·.name ≠ b.name) = before ++ a :: after ∧
        IsEntityText b.name
          (b.columns.filterMap (columnText? options schema b) ++ before.flatMap (reverseTexts b) ++
            reverseTexts b a ++ after.flatMap (reverseTexts b))
          (entity options schema b).value.text) ∧
      List.Forall₂
        (fun key back => ∃ own, columnText? options schema a key.1 = some own ∧
          AreSides options a b key own back)
        (relationKeys a b) (reverseTexts b a) := by
  have hfound : schema.table? b.name = some b := Schema.table?_of_mem hnames hb
  have hname : a.name ≠ b.name := Schema.name_ne_of_ne hnames ha hb hne
  refine ⟨isEntityText_entity options schema a, ?_, ?_⟩
  · have hmem : a ∈ schema.tables.filter (·.name ≠ b.name) :=
      List.mem_filter.mpr ⟨ha, decide_eq_true hname⟩
    obtain ⟨before, after, hsplit⟩ := List.append_of_mem hmem
    refine ⟨before, after, hsplit, ?_⟩
    have htext := isEntityText_entity options schema b
    rw [hsplit, List.flatMap_append, List.flatMap_cons, ← List.append_assoc, ← List.append_assoc]
      at htext
    exact htext
  · rw [reverseTexts, reversePropertiesFrom, List.map_map, List.forall₂_map_right_iff,
      List.forall₂_same]
    exact fun key hkey =>
      ⟨_, columnText?_of_mem_relationKeys hfound hkey, areSides_relationProperty options a b key⟩

/-- Users and their posts, which refer to each other: a post to its author, to one user who has it
pinned, and with a many-to-many key of its primary key to a reader; a user to the latest post. -/
def postsExample : Schema where
  tables :=
    [{ name := "users"
       columns :=
        [{ name := "id", type := "int", primaryKey := true },
         { name := "latest", type := "int"
           reference := some { table := "posts", column := "id" } }] },
     { name := "posts"
       columns :=
        [{ name := "reader", type := "int", primaryKey := true
           reference := some ⟨"users", "id", some .manyToMany, none, none⟩ },
         { name := "author", type := "int"
           reference := some ⟨"users", "id", some .manyToOne, none, some .cascade⟩ },
         { name := "pinned", type := "int", unique := true
           reference := some { table := "users", column := "id" } }] }]

/-- Two keys of a post make relations, the first many-to-one and the second one-to-one. -/
theorem entity_sides_agree_of_posts :
    (postsExample.tables.map (·.name)).Nodup ∧ ∃ users posts, postsExample.tables = [users, posts] ∧
      (relationKeys posts users).map (·.1.name) = ["author", "pinned"] ∧
      List.Forall₂
        (fun key back => ∃ own, columnText? {} postsExample posts key.1 = some own ∧
          AreSides {} posts users key own back)
        (relationKeys posts users) (reverseTexts users posts) ∧
      ∃ before after, IsEntityText "users" (before ++ reverseTexts users posts ++ after)
        (entity {} postsExample users).value.text := by
  have hnames : (postsExample.tables.map (·.name)).Nodup := by decide
  obtain ⟨-, ⟨before, after, -, htext⟩, hsides⟩ :=
    entity_sides_agree (a := postsExample.tables[1]) (b := postsExample.tables[0]) {} hnames
      (List.getElem_mem _) (List.getElem_mem _) (by decide)
  exact ⟨hnames, _, _, rfl, by decide, hsides, _, _, htext⟩

end Dbml.TypeOrm
