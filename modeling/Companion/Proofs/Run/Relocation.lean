import Companion.Proofs.Generator.Reference
import Companion.Proofs.Run.Places
import Companion.Proofs.Run.Writing

/-!
# Runs under another directory

A run on files that have all been put behind a home, from a root that has been put there as well. It
finds the same modules in the same order, generates the same companions, and writes the same texts
behind the home, or fails like the run on the files where they were.
-/

set_option autoImplicit false

namespace Companion

open Failure Companion.Path

theorem Formatter.formatFiles_map (move : Text → Text) (respond : Responder)
    (formatters : List Formatter) (files : List (Text × Text)) :
    (formatFiles respond formatters (files.map fun file => (move file.1, file.2))).1 =
      (formatFiles respond formatters files).1.map
        (·.map fun file => (move file.1, file.2)) := by
  induction files generalizing formatters with
  | nil => rfl
  | cons file rest ih =>
      rw [List.map_cons, formatFiles, formatFiles]
      rcases formatAll respond file.2 formatters with ⟨outcome, next, log⟩
      cases outcome with
      | error failure => rfl
      | ok code =>
          dsimp only
          rw [ih next]
          cases (formatFiles respond next rest).1 <;> rfl

/-- Events behind a home amount to the same files there. -/
theorem Event.collect_moved {home : List Text} (someHome : home ≠ [])
    (areHome : ∀ name ∈ home, IsName name) {events moved : List Event}
    (isMoved : List.Forall₂ (IsMovedTo home) events moved) (files : FileSet)
    (inside : ∀ path ∈ files.paths, IsInside path) :
    Alike (fun files moved => moved = files.mapPaths (join (ofNames false home)) ∧
        ∀ path ∈ files.paths, IsInside path)
      (collect files events) (collect (files.mapPaths (join (ofNames false home))) moved) := by
  induction isMoved generalizing files with
  | nil => exact .ok ⟨rfl, inside⟩
  | cons event rest ih =>
      cases event with
      | scanning path => exact ih files inside
      | generating generator declaration target => exact ih files inside
      | @produced target targetInside fragment =>
          rw [collect, collect, FileSet.add_mapPaths (join_home_injective someHome areHome)]
          apply ih
          intro path member
          rcases FileSet.eq_or_mem_of_mem_paths_add member with isTarget | before
          · exact isTarget ▸ targetInside
          · exact inside path before
      | failed failure other => exact .error failure other

namespace Pipeline

/-- The same run from another root. -/
def rootedAt (pipeline : Pipeline) (root : Text) : Pipeline := { pipeline with root := .path root }

theorem render_mapPaths (pipeline : Pipeline) (respond : Responder) (move : Text → Text)
    (files : FileSet) :
    (pipeline.render respond (files.mapPaths move)).result =
      (pipeline.render respond files).result.map (·.map fun file => (move file.1, file.2)) := by
  have texts : pipeline.plainTexts (files.mapPaths move) =
      (pipeline.plainTexts files).map fun file => (move file.1, file.2) := by
    unfold plainTexts FileSet.mapPaths
    simp only [List.map_map, Function.comp_def]
  unfold render
  rw [texts]
  exact Formatter.formatFiles_map move respond pipeline.formatters (pipeline.plainTexts files)

/-- A run that can be moved: its root is below the working directory, all files pass, the companions
of a module go into its directory or below it, and modules are read alike wherever they are. -/
structure IsMovable (pipeline : Pipeline) (names : List Text) : Prop where
  root : pipeline.root = .path (ofNames false names)
  some : names ≠ []
  areNames : ∀ name ∈ names, IsName name
  unfiltered : pipeline.pattern = none
  stays : ∀ plugin ∈ pipeline.plugins, plugin.StaysBelow
  reader : Syntax.Module.IgnoresDirectories pipeline.readModule

section Home

variable {pipeline : Pipeline} {names : List Text} (movable : pipeline.IsMovable names)
  {home : List Text} (someHome : home ≠ []) (areHome : ∀ name ∈ home, IsName name)
  {store : MemoryFiles} (plain : store.IsRelativePlain) (respond : Responder)

include movable someHome areHome plain

theorem pathEvents_moved (root : Text) {path : Text} (nested : IsNested path) :
    List.Forall₂ (Event.IsMovedTo home) (pipeline.pathEvents store path)
      ((pipeline.rootedAt root).pathEvents (store.under (ofNames false home))
        (join (ofNames false home) path)) := by
  obtain ⟨steps, leads⟩ := nested.isInside
  have relative : isAbsolute path = false := by
    obtain ⟨directories, file, -, areNames, rfl⟩ := nested
    exact isAbsolute_ofNames fun name member => (areNames name member).isPart
  have texts : Alike Eq (FileStore.read store path)
      (FileStore.read (store.under (ofNames false home)) (join (ofNames false home) path)) :=
    MemoryFiles.read_under areHome plain.isInside leads
  refine .cons (.scanning path) ?_
  rcases texts.outcomes with ⟨failure, other, failed, movedFailed⟩ |
    ⟨text, _, rfl, reading, movedReading⟩
  · rw [failed, movedFailed]
    exact .cons (.failed _ _) .nil
  · rw [reading, movedReading]
    have isPath := movable.reader.path path text
    have isReadThere : (pipeline.rootedAt root).readModule (join (ofNames false home) path) text =
        (pipeline.readModule path text).movedTo
          (join (ofNames false home) (pipeline.readModule path text).path) := by
      rw [isPath]
      exact movable.reader.moved someHome areHome relative text
    dsimp only
    rw [isReadThere]
    exact moduleEvents_moved someHome areHome movable.stays (isPath.symm ▸ nested)

theorem events_moved :
    List.Forall₂ (Event.IsMovedTo home) (pipeline.events store)
      ((pipeline.rootedAt (ofNames false (home ++ names))).events
        (store.under (ofNames false home))) := by
  have acceptsAll : ∀ path, pipeline.accepts path = true := by
    intro path
    rw [accepts, movable.unfiltered]
  have sameAccepted : ∀ path, (pipeline.rootedAt (ofNames false (home ++ names))).accepts
      (join (ofNames false home) path) = pipeline.accepts path :=
    fun path => (acceptsAll (join (ofNames false home) path)).trans (acceptsAll path).symm
  have found := MemoryFiles.walk_under areHome plain movable.some movable.areNames sameAccepted
    someHome
  have discovered : pipeline.discover store =
      FileStore.walk store pipeline.accepts (ofNames false names) := by
    rw [discover, movable.root]
  have discoveredThere : (pipeline.rootedAt (ofNames false (home ++ names))).discover
      (store.under (ofNames false home)) = FileStore.walk (store.under (ofNames false home))
        (pipeline.rootedAt (ofNames false (home ++ names))).accepts (ofNames false (home ++ names)) :=
    rfl
  unfold events
  rw [discovered, discoveredThere]
  rcases found.outcomes with ⟨failure, other, failed, movedFailed⟩ |
    ⟨paths, _, ⟨rfl, nested⟩, walked, movedWalked⟩
  · rw [failed, movedFailed]
    exact .cons (.failed _ _) .nil
  · rw [walked, movedWalked]
    dsimp only
    rw [List.flatMap_map]
    have samePaths : List.Forall₂ (fun path other => path = other ∧ IsNested path) paths paths :=
      List.forall₂_same.mpr fun path member => ⟨rfl, nested path member⟩
    refine List.rel_flatMap samePaths ?_
    intro path other related
    obtain ⟨rfl, nestedPath⟩ := related
    exact pathEvents_moved movable someHome areHome plain _ nestedPath

theorem prepare_moved :
    Alike (fun texts moved =>
        moved = texts.map (fun file => (join (ofNames false home) file.1, file.2)) ∧
          ∀ path ∈ texts.map (·.1), IsInside path)
      (pipeline.prepare respond store).result
      ((pipeline.rootedAt (ofNames false (home ++ names))).prepare respond
        (store.under (ofNames false home))).result := by
  rw [prepare_result, prepare_result]
  have generated := Event.collect_moved someHome areHome
    (events_moved movable someHome areHome plain) {} nofun
  refine generated.bind ?_
  intro files moved related
  obtain ⟨rfl, inside⟩ := related
  have rendered : ((pipeline.rootedAt (ofNames false (home ++ names))).render respond
      (files.mapPaths (join (ofNames false home)))).result = _ :=
    render_mapPaths pipeline respond (join (ofNames false home)) files
  rw [rendered]
  cases texts : (pipeline.render respond files).result with
  | error failure => exact .error failure failure
  | ok texts =>
      refine .ok ⟨rfl, ?_⟩
      rwa [render_paths ‹_›]

/-- Both runs fail, or both write the same texts, one behind the home. -/
theorem run_moved :
    let here := pipeline.run respond store
    let there := (pipeline.rootedAt (ofNames false (home ++ names))).run respond
      (store.under (ofNames false home))
    (∃ failure other, here.result = .error failure ∧ here.store = store ∧
        there.result = .error other ∧ there.store = store.under (ofNames false home)) ∨
      ∃ texts : List (Text × Text), (∀ path ∈ texts.map (·.1), IsInside path) ∧
        here.result = .ok (texts.map (·.1)) ∧ here.store = store.writeTexts texts ∧
        there.result = .ok ((texts.map (·.1)).map (join (ofNames false home))) ∧
        there.store = (store.writeTexts texts).under (ofNames false home) := by
  have prepared := prepare_moved movable someHome areHome plain respond
  unfold run
  dsimp only
  rcases prepared.outcomes with ⟨failure, other, failed, movedFailed⟩ |
    ⟨texts, _, ⟨rfl, inside⟩, ready, movedReady⟩
  · rw [failed, movedFailed]
    exact .inl ⟨failure, other, rfl, rfl, rfl, rfl⟩
  · rw [ready, movedReady]
    dsimp only
    rw [MemoryFiles.writeAll_eq, MemoryFiles.writeAll_eq,
      MemoryFiles.writeTexts_under areHome plain.isInside inside]
    refine .inr ⟨texts, inside, rfl, rfl, ?_, rfl⟩
    rw [List.map_map, List.map_map]
    rfl

end Home

end Pipeline

namespace Config

/-- The companions of all generators go into the directories of their modules or below them. -/
def StaysBelow (config : Config) : Prop :=
  ∀ generators, config.generators.toList = .ok generators →
    ∀ generator ∈ generators, generator.fileRelocation.StaysBelow

/-- What a run has besides its configuration: the comment of its header, the formatters behind the
configured one, the working directory, and how the text of a module at a path is read. -/
structure Surroundings where
  comment : Option Text := none
  further : List Formatter := []
  working : Text := ['/']
  reader : Text → Text → Syntax.Module := Syntax.Module.read

/-- The pipeline of a configuration. -/
def pipeline (config : Config) (given : Surroundings) : Except Failure Pipeline := do
  let settings ← config.runSettings given.comment
  let pipeline ← Pipeline.ofConfig settings given.further given.working
  return { pipeline with readModule := given.reader }

/-- What a run with a configuration makes of files in memory: the paths written, or the failure, and
the files after it. -/
def run (config : Config) (given : Surroundings) (respond : Responder) (files : MemoryFiles) :
    Except Failure (List Text) × MemoryFiles :=
  match config.pipeline given with
  | .error failure => (.error failure, files)
  | .ok pipeline => ((pipeline.run respond files).result, (pipeline.run respond files).store)

variable {config : Config} {given : Surroundings}

/-- The root matters for nothing but where modules are sought. -/
theorem pipeline_rootedAt (config : Config) (given : Surroundings) (root : Text) :
    { config with sourceRoot := .string root }.pipeline given =
      (config.pipeline given).map (·.rootedAt root) := by
  have settled : { config with sourceRoot := .string root }.runSettings given.comment =
      (config.runSettings given.comment).map fun settings =>
        { settings with sourceRoot := .string root } := by
    unfold runSettings
    dsimp only
    cases config.isRunnable with
    | false => rfl
    | true =>
        cases config.generators.toList with
        | error failure => rfl
        | ok generators =>
            dsimp only [bind, Except.bind]
            cases generators.mapM GeneratorSettings.plugin with
            | error failure => rfl
            | ok plugins => cases config.formatter.settings <;> rfl
  unfold pipeline
  rw [settled]
  cases config.runSettings given.comment with
  | error failure => rfl
  | ok settings =>
      have samePattern : RunSettings.pattern { settings with sourceRoot := .string root } =
          settings.pattern := rfl
      dsimp only [Except.map, bind, Except.bind]
      unfold Pipeline.ofConfig
      rw [samePattern]
      cases settings.pattern with
      | error failure => rfl
      | ok pattern =>
          dsimp only [bind, Except.bind]
          cases RunSettings.sharedName? [] settings.plugins <;> rfl

theorem runSettings_eq_ok {comment : Option Text} {settings : RunSettings}
    (configured : config.runSettings comment = .ok settings) :
    settings.sourceRoot = config.sourceRoot ∧ settings.sourcePattern = config.sourcePattern ∧
      ∃ generators, config.generators.toList = .ok generators ∧
        generators.mapM GeneratorSettings.plugin = .ok settings.plugins := by
  unfold runSettings at configured
  cases runnable : config.isRunnable with
  | false =>
      rw [runnable] at configured
      cases configured
  | true =>
      rw [runnable] at configured
      obtain ⟨generators, listed, configured⟩ := bind_eq_ok_iff.mp configured
      obtain ⟨plugins, areGenerators, configured⟩ := bind_eq_ok_iff.mp configured
      obtain ⟨formatter, -, configured⟩ := bind_eq_ok_iff.mp configured
      obtain rfl := Except.ok.inj configured
      exact ⟨rfl, rfl, generators, listed, areGenerators⟩

theorem isMovable_of_pipeline_eq_ok {names : List Text}
    (rootIs : config.sourceRoot = .string (ofNames false names)) (some : names ≠ [])
    (areNames : ∀ name ∈ names, IsName name) (unfiltered : config.sourcePattern.isTruthy = false)
    (stays : config.StaysBelow)
    (independent : Syntax.Module.IgnoresDirectories given.reader) {pipeline : Pipeline}
    (settled : config.pipeline given = .ok pipeline) : pipeline.IsMovable names := by
  obtain ⟨settings, configured, settled⟩ := bind_eq_ok_iff.mp settled
  obtain ⟨unread, settled, read⟩ := bind_eq_ok_iff.mp settled
  obtain ⟨pattern, filtered, settled⟩ := bind_eq_ok_iff.mp settled
  obtain ⟨sameRoot, samePattern, generators, listed, areGenerators⟩ := runSettings_eq_ok configured
  cases shared : RunSettings.sharedName? [] settings.plugins with
  | some name =>
      rw [shared] at settled
      cases settled
  | none =>
      rw [shared] at settled
      obtain rfl := Except.ok.inj settled
      obtain rfl := Except.ok.inj read
      refine ⟨?_, some, areNames, ?_, ?_, independent⟩
      · dsimp only
        rw [sameRoot, rootIs, SourceRoot.ofValue]
      · rw [RunSettings.pattern, samePattern, unfiltered] at filtered
        exact (Except.ok.inj filtered).symm
      · intro plugin member
        obtain ⟨generator, isGenerator, isPlugin⟩ :=
          exists_of_mem_of_mapM_eq_ok areGenerators member
        exact ⟨_, stays generators listed generator isGenerator,
          (GeneratorSettings.plugin_maps isPlugin).1⟩

/-- A run on files that are all put behind a home, from the root put there as well, succeeds exactly
when the run on the files where they were does. It then writes the same paths, each behind the home,
and each of them holds the same text; nothing else changes. Of the reader of modules nothing else is
used than that directories do not matter to it. -/
theorem run_moves_with_files {root home : Text} {files : MemoryFiles}
    (rootIs : config.sourceRoot = .string root) (rootPlain : IsRelativePlain root)
    (homePlain : IsRelativePlain home) (unfiltered : config.sourcePattern.isTruthy = false)
    (stays : config.StaysBelow) (plain : files.IsRelativePlain) (given : Surroundings)
    (independent : Syntax.Module.IgnoresDirectories given.reader) (respond : Responder) :
    let behind : Text → Text := fun path => home ++ '/' :: path
    let moved : Config := { config with sourceRoot := .string (behind root) }
    let movedFiles : MemoryFiles :=
      ⟨files.entries.map fun entry => (behind entry.1, entry.2)⟩
    let here := config.run given respond files
    let there := moved.run given respond movedFiles
    ((∃ written, there.1 = .ok written) ↔ ∃ written, here.1 = .ok written) ∧
      (∀ written, here.1 = .ok written → there.1 = .ok (written.map behind) ∧
        ∀ path ∈ written, ∃ text, here.2.read path = .ok text ∧
          there.2.read (behind path) = .ok text) ∧
      there.2 = here.2.under home := by
  obtain ⟨names, someName, areNames, rfl⟩ := isRelativePlain_iff.mp rootPlain
  obtain ⟨homeNames, someHome, areHome, rfl⟩ := isRelativePlain_iff.mp homePlain
  dsimp only
  rw [← MemoryFiles.under_eq areHome plain someHome, ← ofNames_append someHome someName]
  unfold run
  rw [pipeline_rootedAt]
  cases settled : config.pipeline given with
  | error failure => simp [Except.map]
  | ok pipeline =>
      have movable :=
        isMovable_of_pipeline_eq_ok rootIs someName areNames unfiltered stays independent settled
      dsimp only [Except.map]
      rcases pipeline.run_moved movable someHome areHome plain respond with
        ⟨failure, other, failed, unchanged, movedFailed, movedUnchanged⟩ |
        ⟨texts, inside, result, after, movedResult, movedAfter⟩
      · rw [failed, unchanged, movedFailed, movedUnchanged]
        simp
      · rw [result, after, movedResult, movedAfter]
        refine ⟨⟨fun _ => ⟨_, rfl⟩, fun _ => ⟨_, rfl⟩⟩, ?_, rfl⟩
        intro written success
        obtain rfl := Except.ok.inj success
        have isBehind : ∀ path ∈ texts.map (·.1),
            join (ofNames false homeNames) path = ofNames false homeNames ++ '/' :: path := by
          intro path member
          obtain ⟨steps, leads⟩ := inside path member
          exact join_home someHome areHome leads.isAbsolute_eq_false
        refine ⟨congrArg Except.ok (List.map_congr_left isBehind), fun path member => ?_⟩
        obtain ⟨steps, leads⟩ := inside path member
        obtain ⟨text, reading⟩ := files.exists_read_writeTexts member
        have movedReading := MemoryFiles.read_under_eq_ok areHome
          (plain.isInside.writeTexts inside) leads reading
        exact ⟨text, reading, isBehind path member ▸ movedReading⟩

/-- The generators of a configuration that names none can be moved along. -/
theorem staysBelow_of_usual (usual : config.generators = .listed GeneratorSettings.defaults) :
    config.StaysBelow := by
  have usualStays : ∀ subdirectory : Option Text,
      (∀ name ∈ subdirectory, IsRelativePlain name) →
        (Relocation.usual subdirectory).StaysBelow := by
    intro subdirectory below
    refine ⟨fun pair member => ?_, below⟩
    rw [List.mem_singleton.mp member]
    exact List.not_mem_nil
  intro generators listed generator member relocation meant
  rw [usual] at listed
  obtain rfl := Except.ok.inj listed
  rcases List.mem_cons.mp member with isZod | isOther
  · subst isZod
    obtain rfl := Option.some.inj meant
    exact usualStays none nofun
  · rw [List.mem_singleton.mp isOther] at meant
    obtain rfl := Option.some.inj meant
    refine usualStays (some "testing") fun name isName => ?_
    rw [← Option.some.inj isName]
    decide

/-- The usual configuration writes the same companions below `d` when its module is put there. -/
theorem run_moves_with_oneModule :
    let config : Config := { sourceRoot := .string "src" }
    let moved : Config := { sourceRoot := .string "d/src" }
    let files : MemoryFiles := .ofList [("d/src/a.ppx.ts",
      "/** @ts-ppx(zod, fast-check) */\nexport type A = string;\n")]
    let here := config.run { working := "/work" } (fun _ => .timedOut) Pipeline.oneModule
    let there := moved.run { working := "/work" } (fun _ => .timedOut) files
    here.1 = .ok ["src/a.ts".toList, "src/testing/a.ts".toList] ∧
      there.1 = .ok ["d/src/a.ts".toList, "d/src/testing/a.ts".toList] ∧
      ∀ path ∈ ["src/a.ts".toList, "src/testing/a.ts".toList], ∃ text,
        here.2.read path = .ok text ∧ there.2.read ("d/".toList ++ path) = .ok text := by
  intro config moved files here there
  have success : here.1 = .ok ["src/a.ts".toList, "src/testing/a.ts".toList] := by decide +kernel
  have rootIs : config.sourceRoot = .string "src" := rfl
  have rootPlain : IsRelativePlain "src" := by decide
  have homePlain : IsRelativePlain "d" := by decide
  have plain : Pipeline.oneModule.IsRelativePlain := by
    unfold MemoryFiles.IsRelativePlain
    decide
  obtain ⟨-, moves, -⟩ := run_moves_with_files rootIs rootPlain homePlain rfl
    (staysBelow_of_usual rfl) plain { working := "/work" } Syntax.Module.ignoresDirectories_read
    (fun _ => .timedOut)
  obtain ⟨result, texts⟩ := moves _ success
  exact ⟨success, result, texts⟩

end Config

end Companion
