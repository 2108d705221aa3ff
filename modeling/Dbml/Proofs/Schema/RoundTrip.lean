import Dbml.Artifact
import Dbml.Proofs.Json.Reading
import Dbml.Proofs.Linking.Frame
import Dbml.Proofs.Scan.BlockStack
import Dbml.Proofs.Schema.Parts

/-!
# Schemas survive JSON

The JSON text of a schema is read as the schema (`readJson?_jsonText`).  It takes numbers that are
integers of 64 bits, metadata that are not nested too deep, and the keys of metadata to be distinct,
as those of a map are (`IsPortable`).

The settings of a source are texts with distinct keys, since every statement leaves them so
(`Step.plainSettings`) and linking does not touch them.  So a schema that is parsed from a source
can only fail to be portable by its defaults, and where it does not, whatever is generated from the
JSON text is what is generated from the source.
-/

namespace Dbml

open Json
open Json.Record

namespace Schema

/-- All defaults that are numbers are integers of 64 bits. -/
def HasIntegerDefaults (schema : Schema) : Prop :=
  ∀ table ∈ schema.tables, ∀ column ∈ table.columns, column.HasIntegerDefault

/-- The schemas that a JSON text carries.  The metadata lie one level deep in it. -/
structure IsPortable (schema : Schema) : Prop where
  defaults : schema.HasIntegerDefaults
  numbers : ∀ settings ∈ schema.metadata, (Value.object settings).OnlyIntegers
  nesting : ∀ settings ∈ schema.metadata, (Value.object settings).FitsIn (maxDepth - 1)

variable {schema : Schema}

theorem onlyIntegers_toJson (h : schema.IsPortable) : schema.toJson.OnlyIntegers := by
  refine .object ?_
  have htables : (Value.array (schema.tables.map Table.toJson)).OnlyIntegers :=
    onlyIntegers_list fun table htable => Table.onlyIntegers_toJson (h.defaults table htable)
  have hrelations : (Value.array (schema.relations.map Relation.toJson)).OnlyIntegers :=
    onlyIntegers_list fun relation _ => relation.onlyIntegers_toJson
  rw [List.forall_mem_append]
  exact ⟨by simp [htables, hrelations], onlyIntegers_optionalField _ h.numbers⟩

theorem says_metadata {settings : List (String × Value)}
    (h : (Value.object settings).FitsIn (maxDepth - 1)) :
    Says metadataOfJson? (.object settings) settings := by
  refine ⟨by simp, ?_⟩
  rw [metadataOfJson?, toValue?_ofValue h]
  rfl

theorem ofJson?_toJson (h : schema.IsPortable) :
    ofJson? (Node.ofValue schema.toJson) = some schema := by
  have hkeys := (List.Sublist.refl ["tables", "relations"]).append
    (keys_optionalField "metadata" Value.object schema.metadata)
  rw [ofJson?, toJson, ofNode?_object (by simp) (by simpa using hkeys)]
  simp only [Option.bind_eq_bind, Option.bind_some]
  rw [required?_eq ?_ (says_list fun table _ => table.says_toJson), Option.bind_some,
    required?_eq ?_ (says_list fun relation _ => relation.says_toJson), Option.bind_some,
    optional?_eq schema.metadata ?_ fun settings hsettings =>
      says_metadata (h.nesting settings hsettings), Option.bind_some]
  all_goals simp [List.lookup_cons]

/-- The JSON text of a portable schema is read as the schema. -/
theorem readJson?_jsonText (h : schema.IsPortable) : readJson? schema.jsonText = some schema := by
  rw [readJson?, jsonText, Value.prettyText, String.toList_ofList,
    read?_pretty (onlyIntegers_toJson h), Option.bind_some, ofJson?_toJson h]

end Schema

/-! ### The settings of a source -/

/-- Settings with distinct keys and with texts as their values. -/
def PlainSettings (metadata : Option (Keyed Value)) : Prop :=
  ∀ settings ∈ metadata, (settings.map (·.1)).Nodup ∧
    ∀ setting ∈ settings, ∃ text, setting.2 = .string text

namespace Source.Scan

variable {mode : Mode} {scan next : Scan} {events : List Event}

theorem plainSettings_getD (h : PlainSettings scan.metadata) :
    PlainSettings (some (scan.metadata.getD [])) := by
  rintro settings ⟨⟩
  cases hmetadata : scan.metadata with
  | none => simp
  | some settings => exact h settings hmetadata

theorem plainSettings_setMetadata (h : PlainSettings scan.metadata) (key value : String) :
    PlainSettings (scan.setMetadata key value).metadata := by
  rintro settings ⟨⟩
  obtain ⟨hkeys, htexts⟩ := plainSettings_getD h _ rfl
  refine ⟨Keyed.nodup_keys_set hkeys key _, fun setting hsetting => ?_⟩
  rcases Keyed.mem_set hsetting with rfl | hbefore
  · exact ⟨value, rfl⟩
  · exact htexts setting hbefore

/-- A statement makes settings out of texts only. -/
theorem Step.plainSettings {place : Place} {tokens : List Token} (h : PlainSettings scan.metadata)
    (hstep : Step mode place tokens scan events (.ok next)) : PlainSettings next.metadata := by
  cases hstep with
  | @projectOpened name =>
      cases name with
      | none => exact plainSettings_getD h
      | some name =>
          have hentered : PlainSettings
              { scan with metadata := some (scan.metadata.getD []),
                          blocks := .project :: scan.blocks : Scan }.metadata :=
            plainSettings_getD h
          exact plainSettings_setMetadata hentered "name" name
  | @settingMade _ key value => exact plainSettings_setMetadata h key value
  | blockClosed | tableOpened | blockSkipped | relationStated | columnAdded | columnTrailed
  | contentIgnored | passedOver => exact h

theorem Run.plainSettings (hrun : Run mode {} events scan) : PlainSettings scan.metadata :=
  hrun.preserves (P := fun _ scan => PlainSettings scan.metadata) (by rintro settings ⟨⟩)
    (fun h hstep => hstep.plainSettings h) fun _ _ h => h

end Source.Scan

variable {mode : Mode} {source : List Char} {schema : Schema}

theorem plainSettings_parse (h : (parse mode source).outcome = .ok schema) :
    PlainSettings schema.metadata := by
  obtain ⟨scan, hscan, rfl⟩ := parse_eq_ok h
  have hrun := Source.Scan.scanLines_run (Source.Scan.scan_eq_ok hscan).1
  rw [(Linking.grows_link _ _).metadata]
  exact hrun.plainSettings

/-- A parsed schema is portable as soon as its defaults are. -/
theorem isPortable_parse (h : (parse mode source).outcome = .ok schema)
    (hdefaults : schema.HasIntegerDefaults) : schema.IsPortable := by
  refine ⟨hdefaults, fun settings hsettings => .object fun setting hsetting => ?_,
    fun settings hsettings => ?_⟩
  · obtain ⟨text, htext⟩ := (plainSettings_parse h settings hsettings).2 setting hsetting
    exact htext ▸ .string text
  · obtain ⟨hkeys, htexts⟩ := plainSettings_parse h settings hsettings
    refine .object hkeys fun setting hsetting => ?_
    obtain ⟨text, htext⟩ := htexts setting hsetting
    exact htext ▸ .string _ text

/-! ### Converting by way of JSON -/

theorem convert_of_parse (h : (parse mode source).outcome = .ok schema)
    (options : GeneratorOptions) (format : OutputFormat) :
    (convert mode options format source).outcome = .ok (render options format schema).value :=
  (Parsing.bind_of_ok h _).1

/-- **The JSON round trip.**  The JSON text of a schema is read as that schema, whatever strings,
flags and options are in it, if its numbers are integers of 64 bits and its metadata are no deeper
than can be read.  So the file that a source with such defaults is converted to holds a schema from
which every format is generated as from the source. -/
theorem json_round_trip :
    (∀ schema : Schema, schema.IsPortable → Schema.readJson? schema.jsonText = some schema) ∧
    ∀ mode source schema, (parse mode source).outcome = .ok schema → schema.HasIntegerDefaults →
      ∃ text again,
        (∀ options, (convert mode options .json source).outcome = .ok [⟨"schema.json", text⟩]) ∧
        Schema.readJson? text = some again ∧
        ∀ options format,
          (convert mode options format source).outcome =
            .ok (render options format again).value := by
  refine ⟨fun schema h => Schema.readJson?_jsonText h, fun mode source schema h hdefaults => ?_⟩
  refine ⟨schema.jsonText, schema, fun options => convert_of_parse h options .json, ?_, ?_⟩
  · exact Schema.readJson?_jsonText (isPortable_parse h hdefaults)
  · exact convert_of_parse h

/-- A setting with values within values, and the largest integer among them. -/
def nestedExample : Value :=
  .array [.null, .object [("n", .number (.int 18446744073709551615))]]

/-- A schema with escapes, an alias, the smallest integer as a default and nested settings. -/
def portableExample : Schema where
  tables :=
    [{ name := "a \"b\"\n", aliasName := some "\\u0041"
       columns :=
         [{ name := "\x01", type := "bigint", primaryKey := true, nullable := some false
            default := some (.number (.int (-9223372036854775808))), increment := true },
          { name := "é", type := "text", unique := true, nullable := some true, note := some ""
            default := some (.text "null")
            reference := some ⟨"t", "c", some .oneToOne, none, some .setNull⟩ }] },
     { name := "" }]
  relations := [⟨⟨"t", "c"⟩, ⟨"", ""⟩, .manyToMany, some .noAction, none⟩]
  metadata := some [("z", nestedExample), ("a", .object []), ("", .bool false)]

theorem isPortable_portableExample : portableExample.IsPortable := by
  refine ⟨?_, ?_, ?_⟩
  · simp [Schema.HasIntegerDefaults, portableExample, Column.HasIntegerDefault, Number.IsInteger]
  · rintro settings ⟨⟩
    have hnumber : (Value.number (.int 18446744073709551615)).OnlyIntegers := .number (by decide)
    have hnested : nestedExample.OnlyIntegers :=
      .array (by simpa [Value.OnlyIntegers.null] using .object (by simpa using hnumber))
    exact .object (by simpa [hnested] using ⟨.object (by simp), .bool false⟩)
  · rintro settings ⟨⟩
    have hnumber : (Value.number (.int 18446744073709551615)).FitsIn 123 := .number _ _
    have hnested : nestedExample.FitsIn 125 :=
      .array (by simpa [Value.FitsIn.null] using .object (by simp) (by simpa using hnumber))
    exact .object (by simp) (by simpa [hnested] using ⟨.object (by simp) (by simp), .bool _ _⟩)

/-- A schema that uses most of what may be left out is read back, and so is that of a source. -/
theorem json_round_trip_of_escapes :
    let source := "Project \x7b\n a: b\n\x7d\nTable t \x7b\n n int [default: -5]\n\x7d".toList
    Schema.readJson? portableExample.jsonText = some portableExample ∧
      ∃ text again,
        (∀ options, (convert .strict options .json source).outcome = .ok [⟨"schema.json", text⟩]) ∧
        Schema.readJson? text = some again ∧
        ∀ options format,
          (convert .strict options format source).outcome =
            .ok (render options format again).value := by
  intro source
  have htables : (parse .strict source).outcome.map Schema.tables =
      .ok
        [⟨"t", none, [{ name := "n", type := "int", default := some (.number (.int (-5))) }]⟩] := by
    decide +kernel
  cases hparse : (parse .strict source).outcome with
  | error error =>
      rw [hparse] at htables
      contradiction
  | ok schema =>
      rw [hparse] at htables
      have htables : schema.tables = _ := Except.ok.inj htables
      have hdefaults : schema.HasIntegerDefaults := by
        simp [Schema.HasIntegerDefaults, htables, Column.HasIntegerDefault, Number.IsInteger]
      exact ⟨json_round_trip.1 _ isPortable_portableExample,
        json_round_trip.2 _ _ _ hparse hdefaults⟩

end Dbml
