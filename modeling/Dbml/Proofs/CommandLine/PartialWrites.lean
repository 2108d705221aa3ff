import Dbml.CommandLine.Workspace

/-!
# What a run that fails leaves behind

The command reads and converts before it writes anything, and makes a directory before it writes
into it.  Up to there a run that fails leaves all files as they are.  It then writes one file after
another, up to the first that fails, and takes nothing back.

What a host does to its files is known from `KeepsFiles` alone: reading and making directories leave
them, and to write one changes no other.  A write that fails may have made its own file, or emptied
it, before.

* `Written.text?`: what every place holds when files are written one after another;
* `writeArtifacts_cases`: all files are written, or those in front of the first that fails;
* `files_of_failed_run`: what becomes of the files of a host on which the command fails;
* `Workspace.keepsFiles_host`: workspaces are such hosts.
-/

namespace Dbml.CommandLine

section

variable {σ Location : Type} {host : Host (StateM σ)} {text? : σ → Location → Option String}
  {place? : σ → String → Option Location} {start next after : σ} {directory : String}

/-! ### Hosts and their files -/

/-- What the operations of a host do to its files.  A place of a state may hold the text of a file,
and a path may lead to a place. -/
structure KeepsFiles (host : Host (StateM σ)) (text? : σ → Location → Option String)
    (place? : σ → String → Option Location) : Prop where
  readInput : ∀ s, text? (host.readInput.run s).2 = text? s
  readFile : ∀ s path, text? ((host.readFile path).run s).2 = text? s
  isDirectory : ∀ s path, text? ((host.isDirectory path).run s).2 = text? s
  makeDirectory : ∀ s path, text? ((host.makeDirectory path).run s).2 = text? s
  /-- To write a file turns no path aside. -/
  place?_writeFile : ∀ s path text, place? ((host.writeFile path text).run s).2 = place? s
  /-- A file that is written is where its path leads. -/
  written : ∀ s path text after, (host.writeFile path text).run s = (.ok (), after) →
    ∃ place, place? s path = some place ∧ text? after place = some text
  /-- Whether or not it can be written, all other files stay as they are. -/
  others : ∀ s path text place, place? s path ≠ some place →
    text? ((host.writeFile path text).run s).2 place = text? s place

/-- What is done on a host leaves its files as they are. -/
def Leaves {α : Type} (text? : σ → Location → Option String) (x : StateM σ α) : Prop :=
  ∀ s, text? (x.run s).2 = text? s

theorem Leaves.pure {α : Type} (a : α) : Leaves text? (pure a) := fun _ => rfl

theorem Leaves.bind {α β : Type} {x : StateM σ α} {f : α → StateM σ β} (hx : Leaves text? x)
    (hf : ∀ a, Leaves text? (f a)) : Leaves text? (x >>= f) :=
  fun s => (hf _ _).trans (hx s)

namespace KeepsFiles

theorem leaves_readSource (h : KeepsFiles host text? place?) (input : Option String) :
    Leaves text? (readSource host input) := by
  unfold readSource
  split
  · split
    · exact h.readInput
    · exact fun s => h.readFile s _
  · exact h.readInput

theorem leaves_ensureDirectory (h : KeepsFiles host text? place?) (path : String) :
    Leaves text? (host.ensureDirectory path) := by
  refine Leaves.bind (fun s => h.makeDirectory s path) fun made => ?_
  cases made with
  | ok made => exact .pure _
  | error error => exact .bind (fun s => h.isDirectory s path) fun _ => .pure _

/-- Making several directories touches no file, in whatever order it is done. -/
theorem leaves_ensureFirst (h : KeepsFiles host text? place?) (paths : List String) :
    Leaves text? (host.ensureFirst paths) := by
  induction paths with
  | nil => exact .pure _
  | cons path parents ih =>
      refine (h.leaves_ensureDirectory path).bind fun made => ?_
      split
      · refine ih.bind fun above => ?_
        cases above with
        | ok above => exact h.leaves_ensureDirectory path
        | error error => exact .pure _
      · exact .pure _

theorem leaves_createDirectories (h : KeepsFiles host text? place?) (path : String) :
    Leaves text? (host.createDirectories path) :=
  h.leaves_ensureFirst _

end KeepsFiles

/-! ### Files that are written -/

/-- The files of a directory are written one after another. -/
inductive Written (host : Host (StateM σ)) (directory : String) : List Artifact → σ → σ → Prop
  | nil (s : σ) : Written host directory [] s s
  | cons {artifact : Artifact} {rest : List Artifact} {s next after : σ}
      (hfirst : (host.writeFile (joinPath directory artifact.filename) artifact.content).run s =
        (.ok (), next))
      (hrest : Written host directory rest next after) :
        Written host directory (artifact :: rest) s after

/-- The text of the last of several files whose path leads to a place. -/
def lastText? [DecidableEq Location] (place? : String → Option Location) (directory : String)
    (artifacts : List Artifact) (place : Location) : Option String :=
  (artifacts.reverse.find? fun artifact =>
    place? (joinPath directory artifact.filename) = some place).map
    (·.content)

namespace Written

variable {artifacts : List Artifact}

theorem place?_eq (h : Written host directory artifacts start after)
    (hfiles : KeepsFiles host text? place?) : place? after = place? start := by
  induction h with
  | nil s => rfl
  | cons hfirst hrest ih =>
      rename_i artifact rest s next after
      have hkept := hfiles.place?_writeFile s (joinPath directory artifact.filename)
        artifact.content
      rw [hfirst] at hkept
      exact ih.trans hkept

theorem exists_place (h : Written host directory artifacts start after)
    (hfiles : KeepsFiles host text? place?) :
    ∀ artifact ∈ artifacts,
      ∃ place, place? after (joinPath directory artifact.filename) = some place := by
  induction h with
  | nil s => nofun
  | cons hfirst hrest ih =>
      rename_i artifact rest s next after
      obtain ⟨place, hplace, -⟩ := hfiles.written _ _ _ _ hfirst
      have hkept := hfiles.place?_writeFile s (joinPath directory artifact.filename)
        artifact.content
      rw [hfirst] at hkept
      refine List.forall_mem_cons.mpr ⟨⟨place, ?_⟩, ih⟩
      rw [hrest.place?_eq hfiles, hkept, hplace]

/-- Every place holds the last file that was written there, or what it held before. -/
theorem text?_eq [DecidableEq Location] (h : Written host directory artifacts start after)
    (hfiles : KeepsFiles host text? place?) (place : Location) :
    text? after place = (lastText? (place? after) directory artifacts place).or
      (text? start place) := by
  induction h with
  | nil s => rfl
  | cons hfirst hrest ih =>
      rename_i artifact rest s next after
      obtain ⟨own, hown, htext⟩ := hfiles.written _ _ _ _ hfirst
      have hkept := hfiles.place?_writeFile s (joinPath directory artifact.filename)
        artifact.content
      have hothers := hfiles.others s (joinPath directory artifact.filename) artifact.content place
      rw [hfirst] at hkept hothers
      have hafter : place? after (joinPath directory artifact.filename) = some own := by
        rw [hrest.place?_eq hfiles, hkept, hown]
      rw [ih, lastText?, lastText?, List.reverse_cons, List.find?_append, Option.map_or,
        Option.or_assoc]
      by_cases hplace : own = place
      · subst hplace
        simp [hafter, htext]
      · rw [hothers (by simpa [hown] using hplace)]
        simp [hafter, hplace]

end Written

/-- What is said of a file that cannot be written. -/
def writeFailure (directory : String) (failing : Artifact) (error : FileError) : Outcome :=
  failure ("Failed to write " ++ joinPath directory failing.filename ++ ": " ++ error.message)

/-- Writing the files of a directory stops at one of them. -/
structure StopsAt (host : Host (StateM σ)) (directory : String) (start after : σ)
    (written : List Artifact) (failing : Artifact) (error : FileError) : Prop where
  exists_written : ∃ next, Written host directory written start next ∧
    (host.writeFile (joinPath directory failing.filename) failing.content).run next =
      (.error error, after)

/-- All places but that of the file that cannot be written hold what those in front of it leave
there. -/
theorem StopsAt.files [DecidableEq Location] {written : List Artifact} {failing : Artifact}
    {error : FileError} (h : StopsAt host directory start after written failing error)
    (hfiles : KeepsFiles host text? place?) :
    (∀ artifact ∈ written,
        ∃ place, place? after (joinPath directory artifact.filename) = some place) ∧
      ∀ place, place? after (joinPath directory failing.filename) ≠ some place →
        text? after place = (lastText? (place? after) directory written place).or
          (text? start place) := by
  obtain ⟨next, hwritten, hfails⟩ := h.exists_written
  have hkept := hfiles.place?_writeFile next (joinPath directory failing.filename) failing.content
  have hothers := hfiles.others next (joinPath directory failing.filename) failing.content
  rw [hfails] at hkept hothers
  rw [hkept]
  refine ⟨hwritten.exists_place hfiles, fun place hplace => ?_⟩
  rw [hothers place hplace, hwritten.text?_eq hfiles]

/-- Either all files are written, or those in front of the first that cannot be. -/
theorem writeArtifacts_cases {artifacts : List Artifact} {outcome : Outcome}
    (hrun : (writeArtifacts host directory artifacts).run start = (outcome, after)) :
    outcome.code = 0 ∨
      ∃ written failing rest error, artifacts = written ++ failing :: rest ∧
        StopsAt host directory start after written failing error ∧
        outcome = writeFailure directory failing error := by
  induction artifacts generalizing start with
  | nil =>
      cases hrun
      exact .inl rfl
  | cons artifact rest ih =>
      rw [writeArtifacts, StateT.run_bind] at hrun
      cases hwrite :
          (host.writeFile (joinPath directory artifact.filename) artifact.content).run start with
      | mk result next =>
          rw [hwrite] at hrun
          cases result with
          | error error =>
              cases hrun
              exact .inr ⟨[], artifact, rest, error, rfl, ⟨start, .nil start, hwrite⟩, rfl⟩
          | ok done =>
              rcases ih hrun with hcode | ⟨written, failing, behind, error, rfl, hstops, houtcome⟩
              · exact .inl hcode
              · obtain ⟨last, hwritten, hfails⟩ := hstops.exists_written
                exact .inr ⟨artifact :: written, failing, behind, error, rfl,
                  ⟨last, .cons hwrite hwritten, hfails⟩, houtcome⟩

/-- What is delivered is printed or written; if that fails, the files of a directory are written up
to the failure. -/
theorem deliver_cases (hfiles : KeepsFiles host text? place?) {output : Option String}
    {artifacts : List Artifact} {outcome : Outcome}
    (hrun : (deliver host output artifacts).run start = (outcome, after)) :
    outcome.code = 0 ∨ text? after = text? start ∨
      ∃ directory prepared written failing rest error, output = some directory ∧
        (host.createDirectories directory).run start = (.ok (), prepared) ∧
        artifacts = written ++ failing :: rest ∧
        StopsAt host directory prepared after written failing error ∧
        outcome = writeFailure directory failing error := by
  cases output with
  | none =>
      cases hrun
      exact .inl rfl
  | some directory =>
      have hkeeps := hfiles.leaves_createDirectories directory start
      rw [deliver, StateT.run_bind] at hrun
      cases hmake : (host.createDirectories directory).run start with
      | mk made prepared =>
          rw [hmake] at hkeeps hrun
          cases made with
          | error error =>
              cases hrun
              exact .inr (.inl hkeeps)
          | ok made =>
              rcases writeArtifacts_cases hrun with
                hcode | ⟨written, failing, rest, error, hsplit, hstops, houtcome⟩
              · exact .inl hcode
              · exact .inr (.inr ⟨directory, prepared, written, failing, rest, error, rfl, hmake,
                  hsplit, hstops, houtcome⟩)

/-- No file is new, apart from the one that fails, just if each of those in front of it replaces
one. -/
theorem isSome_text?_iff [DecidableEq Location] {artifacts : List Artifact} {own : Option Location}
    (h : ∀ place, own ≠ some place →
      text? after place = (lastText? (place? after) directory artifacts place).or
        (text? start place)) :
    (∀ place, own ≠ some place → (text? after place).isSome → (text? start place).isSome) ↔
      ∀ artifact ∈ artifacts, ∀ place,
        place? after (joinPath directory artifact.filename) = some place →
        own ≠ some place → (text? start place).isSome := by
  have hlast : ∀ place, (lastText? (place? after) directory artifacts place).isSome ↔
      ∃ artifact ∈ artifacts, place? after (joinPath directory artifact.filename) = some place := by
    intro place
    simp [lastText?]
  constructor
  · intro hold artifact hartifact place hplace hown
    refine hold place hown ?_
    rw [h place hown, Option.isSome_or, Bool.or_eq_true]
    exact .inl ((hlast place).mpr ⟨artifact, hartifact, hplace⟩)
  · intro hreplaced place hown hsome
    rw [h place hown, Option.isSome_or, Bool.or_eq_true, hlast] at hsome
    rcases hsome with ⟨artifact, hartifact, hplace⟩ | hbefore
    · exact hreplaced artifact hartifact place hplace hown
    · exact hbefore

/-- A conversion that fails has left all files as they are, or it has got as far as to write. -/
theorem runConversion_cases (hfiles : KeepsFiles host text? place?) {settings : Arguments}
    {outcome : Outcome} (hrun : (runConversion host settings).run start = (outcome, after)) :
    outcome.code = 0 ∨ text? after = text? start ∨
      ∃ directory source read prepared written failing rest error,
        settings.output = some directory ∧
        (readSource host settings.input).run start = (.ok source, read) ∧
        (convert settings.mode settings.options (settings.format.getD .json)
          source.toList).outcome = .ok (written ++ failing :: rest) ∧
        (host.createDirectories directory).run read = (.ok (), prepared) ∧
        text? prepared = text? start ∧
        StopsAt host directory prepared after written failing error ∧
        outcome = writeFailure directory failing error := by
  rw [runConversion, StateT.run_bind] at hrun
  have hkeeps := hfiles.leaves_readSource settings.input start
  cases hread : (readSource host settings.input).run start with
  | mk result read =>
      have hpure : (readSource host settings.input).run start = pure (result, read) := hread
      rw [hpure, pure_bind] at hrun
      rw [hread] at hkeeps
      cases result with
      | error error =>
          cases hrun
          exact .inr (.inl hkeeps)
      | ok source =>
          dsimp only at hrun
          cases hconvert : (convert settings.mode settings.options (settings.format.getD .json)
              source.toList).outcome with
          | error error =>
              rw [hconvert] at hrun
              cases hrun
              exact .inr (.inl hkeeps)
          | ok artifacts =>
              rw [hconvert] at hrun
              rcases deliver_cases hfiles hrun with hcode | hkept |
                ⟨directory, prepared, written, failing, rest, error, houtput, hmade, rfl, hstops,
                  houtcome⟩
              · exact .inl hcode
              · exact .inr (.inl (hkept.trans hkeeps))
              · have hmakes := hfiles.leaves_createDirectories directory read
                rw [hmade] at hmakes
                exact .inr (.inr ⟨directory, source, read, prepared, written, failing, rest, error,
                  houtput, rfl, hconvert, hmade, hmakes.trans hkeeps, hstops, houtcome⟩)

/-- **What becomes of the files when a run fails.**  They stay as they are, or the command has got
as far as to write into a directory: what it read has been converted, and the files in front of one
that cannot be written have been.  Each place, but for that of the one that fails, then holds the
last of these that was written there, or what it held before; so nothing else is new just if each of
them replaced a file. -/
theorem files_of_failed_run [DecidableEq Location] (hfiles : KeepsFiles host text? place?)
    (arguments : List String) (start : σ) {outcome : Outcome}
    (hrun : (run host arguments).run start = (outcome, after)) (hcode : outcome.code ≠ 0) :
    text? after = text? start ∨
      ∃ settings directory source read prepared written failing rest error,
        parse arguments = .ok (.convert settings) ∧ settings.output = some directory ∧
        (readSource host settings.input).run start = (.ok source, read) ∧
        (convert settings.mode settings.options (settings.format.getD .json)
          source.toList).outcome =
          .ok (written ++ failing :: rest) ∧
        (host.createDirectories directory).run read = (.ok (), prepared) ∧
        StopsAt host directory prepared after written failing error ∧
        outcome =
          failure ("Failed to write " ++ joinPath directory failing.filename ++ ": " ++
            error.message) ∧
        (∀ artifact ∈ written, ∃ place,
          place? after (joinPath directory artifact.filename) = some place) ∧
        (∀ place, place? after (joinPath directory failing.filename) ≠ some place →
          text? after place = (lastText? (place? after) directory written place).or
            (text? start place)) ∧
        ((∀ place, place? after (joinPath directory failing.filename) ≠ some place →
            (text? after place).isSome → (text? start place).isSome) ↔
          ∀ artifact ∈ written, ∀ place,
            place? after (joinPath directory artifact.filename) = some place →
            place? after (joinPath directory failing.filename) ≠ some place →
              (text? start place).isSome) := by
  unfold run at hrun
  cases hparse : parse arguments with
  | error error =>
      rw [hparse] at hrun
      cases hrun
      exact .inl rfl
  | ok command =>
      rw [hparse] at hrun
      cases command with
      | version =>
          cases hrun
          exact .inl rfl
      | help =>
          cases hrun
          exact .inl rfl
      | convert settings =>
          rcases runConversion_cases hfiles hrun with hzero | hkept |
            ⟨directory, source, read, prepared, written, failing, rest, error, houtput, hread,
              hconvert, hmade, hprepared, hstops, rfl⟩
          · exact absurd hzero hcode
          · exact .inl hkept
          · obtain ⟨hplaces, htexts⟩ := hstops.files hfiles
            rw [hprepared] at htexts
            exact .inr ⟨settings, directory, source, read, prepared, written, failing, rest, error,
              rfl, houtput, hread, hconvert, hmade, hstops, rfl, hplaces, htexts,
              isSome_text?_iff htexts⟩

end

/-! ### Workspaces -/

namespace Workspace

variable {workspace other after : Workspace} {path text : String} {place : Place}

/-- The text of a file. -/
def text? (workspace : Workspace) (place : Place) : Option String :=
  workspace.files.lookup place

/-- Where a path leads, if the directories on the way to it exist. -/
def place? (workspace : Workspace) (path : String) : Option Place :=
  (workspace.locate path).toOption.map (·.place)

theorem isDirectory_congr (h : workspace.directories = other.directories) (place : Place) :
    workspace.isDirectory place = other.isDirectory place := by
  rw [isDirectory, isDirectory, h]

theorem walk_congr (h : workspace.directories = other.directories) (here : Place)
    (names : List String) :
    (workspace.walk here names).toOption = (other.walk here names).toOption := by
  induction names generalizing here with
  | nil => rfl
  | cons name rest ih =>
      rw [walk, walk]
      cases follow here name with
      | error error => rfl
      | ok next =>
          simp only [bind, Except.bind, ← isDirectory_congr h next]
          split
          · exact ih next
          · split <;> split <;> rfl

theorem place?_congr (h : workspace.directories = other.directories) :
    workspace.place? = other.place? := by
  funext path
  refine congrArg (Option.map Target.place) ?_
  unfold locate
  dsimp only
  split
  · rfl
  split
  · rfl
  split
  · rfl
  cases (Path.ofText path).names.getLast? with
  | none => rfl
  | some name =>
      have hwalk := walk_congr h { base := if (Path.ofText path).absolute then .top else .above 0 }
        (Path.ofText path).names.dropLast
      dsimp only
      revert hwalk
      generalize walk workspace _ _ = here
      generalize walk other _ _ = there
      cases here <;> cases there <;> rintro ⟨⟩ <;> rfl

theorem lookup_cons (here : Place) (text : String) (files : List (Place × String)) :
    ((here, text) :: files).lookup place =
      if place = here then some text else files.lookup place := by
  rw [List.lookup_cons]
  by_cases hplace : place = here
  · rw [if_pos hplace, beq_iff_eq.mpr hplace]
  · rw [if_neg hplace, beq_eq_false_iff_ne.mpr hplace]

theorem lookup_filter_ne (files : List (Place × String)) (written : Place) :
    (files.filter (·.1 != written)).lookup place =
      if place = written then none else files.lookup place := by
  induction files with
  | nil => simp
  | cons file rest ih =>
      obtain ⟨here, text⟩ := file
      by_cases hhere : here = written
      · rw [List.filter_cons_of_neg (by simp [hhere]), ih, lookup_cons, hhere]
        split <;> rfl
      · rw [List.filter_cons_of_pos (by simp [hhere]), lookup_cons, lookup_cons, ih]
        by_cases hplace : place = here
        · rw [if_pos hplace, if_neg (hplace ▸ hhere), if_pos hplace]
        · rw [if_neg hplace, if_neg hplace]

/-- A file that is written is where its path leads, and all else stays as it is. -/
theorem writeFile_eq_ok (h : workspace.writeFile path text = .ok after) :
    after.directories = workspace.directories ∧ ∃ own, workspace.place? path = some own ∧
      ∀ place, after.text? place = if place = own then some text else workspace.text? place := by
  unfold writeFile at h
  cases hlocate : workspace.locate path with
  | error error =>
      rw [hlocate] at h
      cases h
  | ok target =>
      rw [hlocate] at h
      simp only [bind, Except.bind] at h
      split at h
      · cases h
      · cases h
        refine ⟨rfl, target.place, by rw [place?, hlocate]; rfl, fun place => ?_⟩
        rw [Workspace.text?, List.lookup_append, lookup_filter_ne, lookup_cons]
        by_cases hplace : place = target.place <;> simp [hplace, Workspace.text?]

theorem run_attempt (change : Workspace → Except FileError Workspace) (workspace : Workspace) :
    (attempt change).run workspace =
      match change workspace with
      | .ok changed => (.ok (), changed)
      | .error error => (.error error, workspace) := by
  unfold attempt
  cases hchange : change workspace with
  | error error =>
      simp only [StateT.run_bind, StateT.run_get, pure_bind, hchange]
      rfl
  | ok changed =>
      simp only [StateT.run_bind, StateT.run_get, pure_bind, hchange]
      rfl

/-- A change that succeeds is what the attempt leads to, and one that fails leaves everything. -/
theorem run_attempt_cases (change : Workspace → Except FileError Workspace)
    (workspace : Workspace) :
    (∃ error, (attempt change).run workspace = (.error error, workspace)) ∨
      ∃ changed, change workspace = .ok changed ∧
        (attempt change).run workspace = (.ok (), changed) := by
  rw [run_attempt]
  cases hchange : change workspace with
  | error error => exact .inl ⟨error, rfl⟩
  | ok changed => exact .inr ⟨changed, rfl, rfl⟩

theorem files_makeDirectory (h : workspace.makeDirectory path = .ok after) :
    after.files = workspace.files := by
  unfold makeDirectory at h
  cases hlocate : workspace.locate path with
  | error error =>
      rw [hlocate] at h
      cases h
  | ok target =>
      rw [hlocate] at h
      simp only [bind, Except.bind] at h
      split at h
      · cases h
      · cases h
        rfl

/-- A workspace is a host whose files are known.  It makes or empties none that cannot be
written. -/
theorem keepsFiles_host : KeepsFiles host text? place? where
  readInput _ := rfl
  readFile _ _ := rfl
  isDirectory _ _ := rfl
  makeDirectory workspace path := by
    rcases run_attempt_cases (·.makeDirectory path) workspace with
      ⟨error, hrun⟩ | ⟨changed, hchange, hrun⟩
    · exact congrArg (·.2.text?) hrun
    · refine (congrArg (·.2.text?) hrun).trans (funext fun place => ?_)
      rw [Workspace.text?, Workspace.text?, files_makeDirectory hchange]
  place?_writeFile workspace path text := by
    rcases run_attempt_cases (·.writeFile path text) workspace with
      ⟨error, hrun⟩ | ⟨changed, hchange, hrun⟩
    · exact congrArg (·.2.place?) hrun
    · exact (congrArg (·.2.place?) hrun).trans (place?_congr (writeFile_eq_ok hchange).1)
  written workspace path text after hwrite := by
    rcases run_attempt_cases (·.writeFile path text) workspace with
      ⟨error, hrun⟩ | ⟨changed, hchange, hrun⟩
    · cases hrun.symm.trans hwrite
    · cases hrun.symm.trans hwrite
      obtain ⟨-, own, hown, htext⟩ := writeFile_eq_ok hchange
      exact ⟨own, hown, by rw [htext, if_pos rfl]⟩
  others workspace path text place hplace := by
    rcases run_attempt_cases (·.writeFile path text) workspace with
      ⟨error, hrun⟩ | ⟨changed, hchange, hrun⟩
    · exact congrArg (·.2.text? place) hrun
    · obtain ⟨-, own, hown, htext⟩ := writeFile_eq_ok hchange
      refine (congrArg (·.2.text? place) hrun).trans ?_
      rw [htext, if_neg fun heq => hplace (hown.trans (congrArg some heq.symm))]

end Workspace

/-- A schema whose second table has a slash in its name. -/
def slashedSource : String :=
  "Table a \x7b\n  id int\n\x7d\nTable \"b/c\" \x7b\n  id int\n\x7d"

/-- A workspace with that schema in a file. -/
def slashed : Workspace :=
  .ofFiles "" [("in.dbml", slashedSource)]

/-- The arguments for its entities to be written into a directory. -/
def slashedArguments : List String :=
  ["-f", "typeorm", "-o", "out", "in.dbml"]

theorem outcome_slashed :
    (runIn slashed slashedArguments).1 =
      failure "Failed to write out/b/c.entity.ts: No such file or directory (os error 2)" := by
  decide +kernel

theorem filesSince_slashed :
    ((runIn slashed slashedArguments).2.filesSince slashed).map (·.1.path?) =
      [some "out/a.entity.ts"] := by
  decide +kernel

/-- The entity of the first table is written, that of the second leads into a directory that is
missing. -/
theorem files_of_failed_run_of_slash :
    KeepsFiles Workspace.host Workspace.text? Workspace.place? ∧
      (run Workspace.host slashedArguments).run slashed = runIn slashed slashedArguments ∧
      (runIn slashed slashedArguments).1.code ≠ 0 ∧
      ∃ prepared directory written failing error,
        StopsAt Workspace.host directory prepared (runIn slashed slashedArguments).2
          written failing error ∧
        (runIn slashed slashedArguments).1 =
          failure ("Failed to write " ++ joinPath directory failing.filename ++ ": " ++
            error.message) ∧
        ∀ place,
          (runIn slashed slashedArguments).2.place? (joinPath directory failing.filename) ≠
            some place →
          (runIn slashed slashedArguments).2.text? place =
            (lastText? (runIn slashed slashedArguments).2.place? directory written place).or
              (slashed.text? place) := by
  have hcode : (runIn slashed slashedArguments).1.code ≠ 0 := by
    rw [outcome_slashed]
    decide
  refine ⟨Workspace.keepsFiles_host, rfl, hcode, ?_⟩
  rcases files_of_failed_run Workspace.keepsFiles_host slashedArguments slashed rfl hcode with
    hkept | hwrites
  · have hnew : (runIn slashed slashedArguments).2.text? { names := ["out", "a.entity.ts"] } ≠
        slashed.text? { names := ["out", "a.entity.ts"] } := by
      decide +kernel
    exact absurd (congrFun hkept _) hnew
  · obtain ⟨settings, directory, source, read, prepared, written, failing, rest, error, -, -, -, -,
      -, hstops, houtcome, -, htexts, -⟩ := hwrites
    exact ⟨prepared, directory, written, failing, error, hstops, houtcome, htexts⟩

/-- **A run that fails may leave files behind.**  The entity of the first table stays when that of
the second cannot be written. -/
theorem failed_run_creates_file :
    (runIn slashed slashedArguments).1.code = 1 ∧
      ((runIn slashed slashedArguments).2.filesSince slashed).map (·.1.path?) =
        [some "out/a.entity.ts"] := by
  rw [outcome_slashed]
  exact ⟨rfl, filesSince_slashed⟩

end Dbml.CommandLine
