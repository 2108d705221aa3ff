import Dbml.Proofs.Scan.Step

/-!
# The stack of open blocks

Only the outermost block of a scan can be a table or the project: everything inside it is skipped,
because a header is read as one outside of all blocks or in place of an open table, and every other
opening brace begins a block to skip.  An open table is always the last one that was opened.

The invariant is `BlocksNested`; a statement preserves it (`BlocksNested.step`), so every reachable
scan has it.  It follows that

* a statement adds columns to the last table only (`Step.tablesGrow`);
* a statement is refused in the strict mode only, for not being understood (`statement_error`), so
  that the lenient mode scans every text (`scan_lenient_isOk`);
* a table that is left open is the last one whose header was read, as the events show
  (`Run.openedTables`, `finish_error`).
-/

namespace Dbml.Source.Scan

open Parsing

/-- Only the outermost block may be one that is not skipped.  If it is a table, then the last one;
if it is the project, then the scan has settings. -/
structure BlocksNested (scan : Scan) : Prop where
  inner : ∀ block ∈ scan.blocks.dropLast, block = .skipped
  table : ∀ index, scan.blocks.getLast? = some (.table index) → index + 1 = scan.tables.length
  project : scan.blocks.getLast? = some .project → scan.metadata.isSome

variable {mode : Mode} {place : Place} {tokens : List Token} {scan next : Scan}
  {events : List Event} {block : Block} {outer : List Block}

/-! ### Pushing and popping -/

theorem blocksNested_initial : BlocksNested {} :=
  ⟨by simp, by simp, by simp⟩

/-- A block that is not skipped stands alone. -/
theorem BlocksNested.outer_eq_nil (hscan : scan.BlocksNested)
    (hblocks : scan.blocks = block :: outer) (hblock : block ≠ .skipped) : outer = [] := by
  by_contra hne
  refine hblock (hscan.inner block ?_)
  rw [hblocks, List.dropLast_cons_of_ne_nil hne]
  exact List.mem_cons_self

theorem BlocksNested.pop (hscan : scan.BlocksNested) (hblocks : scan.blocks = block :: outer) :
    BlocksNested { scan with blocks := outer } := by
  have hlast : ∀ {last}, outer.getLast? = some last → scan.blocks.getLast? = some last := by
    intro last h
    rw [hblocks, List.getLast?_cons, h]
    rfl
  refine ⟨fun inner hinner => hscan.inner inner ?_, fun index h => hscan.table index (hlast h),
    fun h => hscan.project (hlast h)⟩
  have hne : outer ≠ [] := by
    rintro rfl
    simp at hinner
  rw [hblocks, List.dropLast_cons_of_ne_nil hne]
  exact List.mem_cons_of_mem _ hinner

theorem BlocksNested.push_skipped (hscan : scan.BlocksNested) :
    BlocksNested { scan with blocks := .skipped :: scan.blocks } := by
  cases hblocks : scan.blocks with
  | nil => exact ⟨by simp, by simp, by simp⟩
  | cons block outer =>
      -- what was outermost stays so
      have hlast : (Block.skipped :: block :: outer).getLast? = scan.blocks.getLast? := by
        rw [hblocks, List.getLast?_cons_cons]
      refine ⟨?_, ?_, ?_⟩
      · intro inner hinner
        rw [List.dropLast_cons_of_ne_nil (List.cons_ne_nil _ _), ← hblocks] at hinner
        rcases List.mem_cons.mp hinner with rfl | hinner
        · rfl
        · exact hscan.inner inner hinner
      · intro index h
        exact hscan.table index (hlast ▸ h)
      · intro h
        exact hscan.project (hlast ▸ h)

theorem BlocksNested.openTable_blocks (hscan : scan.BlocksNested)
    (hblocks : scan.blocks = [] ∨ ∃ index outer, scan.blocks = .table index :: outer)
    (header : TableHeader) : (scan.openTable header).blocks = [.table scan.tables.length] := by
  rcases hblocks with hblocks | ⟨index, outer, hblocks⟩
  · simp [openTable, hblocks]
  -- the table that is open stands alone, and the new one takes its place
  · have : outer = [] := hscan.outer_eq_nil hblocks (by simp)
    simp [openTable, hblocks, this]

theorem openProject_blocks (name : Option String) :
    (scan.openProject name).blocks = .project :: scan.blocks := by
  cases name <;> rfl

theorem openProject_metadata_isSome (name : Option String) :
    (scan.openProject name).metadata.isSome := by
  cases name <;> rfl

/-! ### Every statement -/

theorem BlocksNested.step (hscan : scan.BlocksNested)
    (hstep : Step mode place tokens scan events (.ok next)) : next.BlocksNested := by
  cases hstep with
  | blockClosed hclose hblocks => exact hscan.pop hblocks
  | tableOpened hblocks hheader =>
      rename_i header
      have hopen := hscan.openTable_blocks hblocks header
      refine ⟨?_, ?_, ?_⟩
      · simp [hopen]
      · intro index h
        simp only [hopen, List.getLast?_singleton, Option.some.injEq, Block.table.injEq] at h
        simp [openTable, h]
      · simp [hopen]
  | projectOpened hblocks hheader =>
      rename_i name
      have hopen : (scan.openProject name).blocks = [.project] := by
        rw [openProject_blocks, hblocks]
      exact ⟨by simp [hopen], by simp [hopen], fun _ => openProject_metadata_isSome name⟩
  | blockSkipped hopen => exact hscan.push_skipped
  | relationStated hblocks hrelation => exact ⟨hscan.inner, hscan.table, hscan.project⟩
  -- another column leaves the number of tables as it is
  | columnAdded hblocks hcolumn htable =>
      refine ⟨hscan.inner, fun index h => ?_, hscan.project⟩
      simpa [addColumn] using hscan.table index h
  | columnTrailed hmode hblocks hcolumn hrest htable =>
      refine ⟨hscan.inner, fun index h => ?_, hscan.project⟩
      simpa [addColumn] using hscan.table index h
  | settingMade hblocks => exact ⟨hscan.inner, hscan.table, fun _ => rfl⟩
  | contentIgnored => exact hscan
  | passedOver hmode => exact hscan

theorem Reachable.blocksNested (hscan : Reachable scan) : scan.BlocksNested := by
  induction hscan with
  | initial => exact blocksNested_initial
  | statement mode place tokens _ hnext ih =>
      exact ih.step (hnext ▸ statement_step mode place tokens _)

/-- An open block that is not skipped is the outermost one. -/
theorem BlocksNested.getLast?_blocks (hscan : scan.BlocksNested) (hmem : block ∈ scan.blocks)
    (hblock : block ≠ .skipped) : scan.blocks.getLast? = some block := by
  have hne : scan.blocks ≠ [] := List.ne_nil_of_mem hmem
  rw [← List.dropLast_concat_getLast hne, List.mem_append, List.mem_singleton] at hmem
  rcases hmem with hinner | hlast
  · exact absurd (hscan.inner block hinner) hblock
  · rw [List.getLast?_eq_some_getLast hne, hlast]

theorem BlocksNested.tables_eq (hscan : scan.BlocksNested) {index : Nat}
    (hmem : .table index ∈ scan.blocks) :
    ∃ earlier last, scan.tables = earlier ++ [last] ∧ index = earlier.length := by
  have hlength := hscan.table index (hscan.getLast?_blocks hmem (by simp))
  have hne : scan.tables ≠ [] := by
    intro hnil
    simp [hnil] at hlength
  refine ⟨scan.tables.dropLast, scan.tables.getLast hne, (List.dropLast_concat_getLast hne).symm,
    ?_⟩
  rw [List.length_dropLast]
  omega

/-! ### Columns are added to the last table -/

/-- What a statement does to the tables: nothing, another table without columns at the end, or
another column at the end of the last table. -/
inductive TablesGrow : List Table → List Table → Prop
  | unchanged {tables : List Table} : TablesGrow tables tables
  | opened {tables : List Table} (header : TableHeader) :
      TablesGrow tables (tables ++ [{ name := header.name, aliasName := header.aliasName }])
  | column {earlier : List Table} {last : Table} (column : Column) :
      TablesGrow (earlier ++ [last])
        (earlier ++ [{ last with columns := last.columns ++ [column] }])

theorem BlocksNested.tablesGrow_addColumn (hscan : scan.BlocksNested) {index : Nat} {table : Table}
    (hblocks : scan.blocks = .table index :: outer) (htable : scan.tables[index]? = some table)
    (column : Column) : TablesGrow scan.tables (scan.addColumn index table column).tables := by
  obtain ⟨earlier, last, htables, rfl⟩ := hscan.tables_eq (hblocks ▸ List.mem_cons_self)
  have hlast : last = table := by simpa [htables] using htable
  subst hlast
  have hset : (scan.addColumn earlier.length last column).tables =
      earlier ++ [{ last with columns := last.columns ++ [column] }] := by
    simp [addColumn, htables]
  rw [hset, htables]
  exact .column column

/-- A statement adds a column to the last table at most. -/
theorem Step.tablesGrow (hscan : scan.BlocksNested)
    (hstep : Step mode place tokens scan events (.ok next)) :
    TablesGrow scan.tables next.tables := by
  cases hstep with
  | tableOpened hblocks hheader => exact .opened _
  | projectOpened hblocks hheader =>
      rename_i name
      cases name <;> exact .unchanged
  | columnAdded hblocks hcolumn htable => exact hscan.tablesGrow_addColumn hblocks htable _
  | columnTrailed hmode hblocks hcolumn hrest htable =>
      exact hscan.tablesGrow_addColumn hblocks htable _
  | _ => exact .unchanged

/-! ### Statements that are refused -/

/-- Only the strict mode refuses a statement, and only for not being understood. -/
theorem statement_error (hscan : scan.BlocksNested) {error : ParseError}
    (h : (scan.statement mode place tokens).outcome = .error error) :
    mode = .strict ∧ error = .unrecognized place.line place.text := by
  have hstep := statement_step mode place tokens scan
  rw [h] at hstep
  generalize (scan.statement mode place tokens).events = events at hstep
  cases hstep with
  | refused hmode => exact ⟨hmode, rfl⟩
  | tableMissing hblocks htable =>
      -- the open table is the last one, so it does exist
      obtain ⟨earlier, last, htables, rfl⟩ := hscan.tables_eq (hblocks ▸ List.mem_cons_self)
      simp [htables] at htable

/-! ### The table that is left open -/

/-- The names of the tables that open while the events are reported. -/
def openedTables (events : List Event) : List String :=
  events.filterMap fun
    | .tableOpened table => some table
    | _ => none

@[simp] theorem openedTables_append (events more : List Event) :
    openedTables (events ++ more) = openedTables events ++ openedTables more :=
  List.filterMap_append

theorem addColumn_names {index : Nat} {table : Table} (htable : scan.tables[index]? = some table)
    (column : Column) :
    (scan.addColumn index table column).tables.map (·.name) = scan.tables.map (·.name) := by
  apply List.ext_getElem?
  intro other
  simp only [addColumn, List.getElem?_map, List.getElem?_set]
  split
  · rename_i heq
    subst heq
    split <;> simp_all
  · rfl

/-- The tables of a scan are those that the events show, in the same order. -/
theorem Run.openedTables (hrun : Run mode {} events scan) :
    scan.tables.map (·.name) = openedTables events := by
  refine hrun.preserves (P := fun events scan =>
    scan.tables.map (·.name) = Scan.openedTables events)
    rfl ?_ ?_
  · intro events scan place tokens more next hnames hstep
    rw [openedTables_append, ← hnames]
    cases hstep with
    | tableOpened hblocks hheader => simp [openTable, Scan.openedTables]
    | projectOpened hblocks hheader =>
        rename_i name
        cases name <;> simp [openProject, setMetadata, Scan.openedTables]
    | columnAdded hblocks hcolumn htable => simp [addColumn_names htable, Scan.openedTables]
    | columnTrailed hmode hblocks hcolumn hrest htable =>
        simp [addColumn_names htable, Scan.openedTables]
    | _ => simp [Scan.openedTables, addRelation, setMetadata]
  · intro events scan line error hnames
    rw [openedTables_append, ← hnames]
    simp [Scan.openedTables]

/-- The end of the source changes nothing; the strict mode refuses a table that is open there. -/
theorem finish_cases (mode : Mode) (scan : Scan) :
    finish mode scan = pure scan ∨
      mode = .strict ∧ ∃ index, .table index ∈ scan.blocks ∧
        finish mode scan =
          throw (.unclosedTable ((scan.tables[index]?.map (·.name)).getD "")) := by
  unfold finish
  split
  · rename_i index hopen
    obtain ⟨block, hblock, hindex⟩ := List.exists_of_findSome?_eq_some hopen
    have hmem : .table index ∈ scan.blocks := by
      cases block <;> simp_all
    exact .inr ⟨rfl, index, hmem, rfl⟩
  · exact .inl rfl

theorem finish_error (hscan : scan.BlocksNested) {error : ParseError}
    (h : (finish mode scan).outcome = .error error) :
    mode = .strict ∧ (finish mode scan).events = [] ∧
      ∃ earlier last, scan.tables = earlier ++ [last] ∧ error = .unclosedTable last.name := by
  rcases finish_cases mode scan with hpure | ⟨hmode, index, hmem, hthrow⟩
  · rw [hpure] at h
    cases h
  · obtain ⟨earlier, last, htables, rfl⟩ := hscan.tables_eq hmem
    rw [hthrow] at h ⊢
    cases h
    exact ⟨hmode, rfl, earlier, last, htables, by simp [htables]⟩

/-! ### Whole sources -/

variable {source : List Char}

theorem scan_eq_ok (h : (Source.scan mode source).outcome = .ok scan) :
    (scanLines mode 1 (Text.lines source) {}).outcome = .ok scan ∧
      (Source.scan mode source).events = (scanLines mode 1 (Text.lines source) {}).events := by
  obtain ⟨last, hlines, hfinish⟩ := outcome_bind_eq_ok.mp h
  rcases finish_cases mode last with hpure | ⟨-, index, -, hthrow⟩
  · rw [hpure] at hfinish
    cases hfinish
    refine ⟨hlines, ?_⟩
    rw [Source.scan, (bind_of_ok hlines _).2, hpure, events_pure, List.append_nil]
  · rw [hthrow] at hfinish
    cases hfinish

/-- The reasons for which the scan of a source may fail, all of them in the strict mode. -/
theorem scan_error {error : ParseError} (h : (Source.scan mode source).outcome = .error error) :
    mode = .strict ∧
      ((∃ line failure, error = .lex line failure) ∨
        (∃ line text, error = .unrecognized line text) ∨
        ∃ name, error = .unclosedTable name ∧
          (openedTables (Source.scan mode source).events).getLast? = some name) := by
  rcases outcome_bind_eq_error.mp h with hlines | ⟨scan, hlines, hfinish⟩
  · rcases scanLines_error hlines with
      ⟨hmode, hlex⟩ | ⟨events, mid, place, tokens, hrun, hstatement⟩
    · exact ⟨hmode, .inl hlex⟩
    · obtain ⟨hmode, rfl⟩ := statement_error (hrun.reachable .initial).blocksNested hstatement
      exact ⟨hmode, .inr (.inl ⟨_, _, rfl⟩)⟩
  · have hrun := scanLines_run hlines
    obtain ⟨hmode, hevents, earlier, last, htables, rfl⟩ :=
      finish_error (hrun.reachable .initial).blocksNested hfinish
    refine ⟨hmode, .inr (.inr ⟨last.name, rfl, ?_⟩)⟩
    rw [Source.scan, (bind_of_ok hlines _).2, hevents, List.append_nil, ← hrun.openedTables,
      htables]
    simp

theorem scan_lenient_isOk (source : List Char) :
    ∃ scan, (Source.scan .lenient source).outcome = .ok scan := by
  cases h : (Source.scan .lenient source).outcome with
  | ok scan => exact ⟨scan, rfl⟩
  | error error =>
      obtain ⟨hmode, -⟩ := scan_error h
      contradiction

/-- **The stack of open blocks.**  In every reachable scan only the outermost block can be one that
is not skipped, an open table is the last one, and an open project has settings; a statement adds
columns to the last table only and never misses the open one.  So no source is refused for a missing
table, the lenient mode makes a schema of every text, and a table that is reported as unclosed is
the last one that was opened. -/
theorem blocks_nested_and_last_table_open :
    (∀ scan, Reachable scan → scan.BlocksNested ∧ ∀ mode place tokens,
      (∀ index, (scan.statement mode place tokens).outcome ≠ .error (.noSuchTable index)) ∧
      ∀ next, (scan.statement mode place tokens).outcome = .ok next →
        TablesGrow scan.tables next.tables) ∧
    (∀ mode source scan, (Source.scan mode source).outcome = .ok scan →
      Reachable scan ∧
        scan.tables.map (·.name) = openedTables (Source.scan mode source).events) ∧
    (∀ mode source index, (parse mode source).outcome ≠ .error (.noSuchTable index)) ∧
    (∀ source, ∃ schema, (parse .lenient source).outcome = .ok schema) ∧
    ∀ source name, (parse .strict source).outcome = .error (.unclosedTable name) →
      (openedTables (parse .strict source).events).getLast? = some name := by
  refine ⟨fun scan hscan => ⟨hscan.blocksNested, fun mode place tokens => ⟨?_, ?_⟩⟩, ?_, ?_, ?_, ?_⟩
  · intro index h
    obtain ⟨-, herror⟩ := statement_error hscan.blocksNested h
    cases herror
  · intro next hnext
    exact Step.tablesGrow hscan.blocksNested (hnext ▸ statement_step mode place tokens scan)
  · intro mode source scan h
    obtain ⟨hlines, hevents⟩ := scan_eq_ok h
    have hrun := scanLines_run hlines
    rw [hevents]
    exact ⟨hrun.reachable .initial, hrun.openedTables⟩
  · intro mode source index h
    rcases (scan_error (parse_eq_error h)).2 with
      ⟨_, _, herror⟩ | ⟨_, _, herror⟩ | ⟨_, herror, _⟩ <;>
      cases herror
  · intro source
    obtain ⟨scan, hscan⟩ := scan_lenient_isOk source
    exact ⟨_, (parse_of_ok hscan).1⟩
  · intro source name h
    have hscan := parse_eq_error h
    rw [(parse_of_error hscan).2]
    rcases (scan_error hscan).2 with ⟨_, _, herror⟩ | ⟨_, _, herror⟩ | ⟨_, herror, hlast⟩ <;>
      cases herror
    exact hlast

end Dbml.Source.Scan
