import Companion.Proofs.Files.Memory
import Companion.Proofs.Run.Generation
import Companion.Run.Writing

/-! What a run on files in memory leaves behind. A run that fails leaves the files as they were; a
run that succeeds writes the rendered files one after the other, so that each place holds the last
text for it and all other places what they held before. -/

set_option autoImplicit false

namespace Companion

/-- Formatting changes no path. -/
theorem Formatter.formatFiles_paths {respond : Responder} {formatters : List Formatter}
    {files texts : List (Text × Text)}
    (success : (formatFiles respond formatters files).1 = .ok texts) :
    texts.map (·.1) = files.map (·.1) := by
  induction files generalizing formatters texts with
  | nil =>
      obtain rfl := Except.ok.inj success
      rfl
  | cons file rest ih =>
      rw [formatFiles] at success
      rcases formatted : formatAll respond file.2 formatters with ⟨outcome, next, log⟩
      rw [formatted] at success
      cases outcome with
      | error failure => cases success
      | ok code =>
          dsimp only at success
          cases others : (formatFiles respond next rest).1 with
          | error failure =>
              rw [others] at success
              cases success
          | ok more =>
              rw [others] at success
              obtain rfl := Except.ok.inj success
              rw [List.map_cons, List.map_cons, ih others]

namespace Pipeline

/-- Rendering changes no path. -/
theorem render_paths {pipeline : Pipeline} {respond : Responder} {files : FileSet}
    {texts : List (Text × Text)} (success : (pipeline.render respond files).result = .ok texts) :
    texts.map (·.1) = files.paths := by
  rw [Formatter.formatFiles_paths success, plainTexts, List.map_map]
  rfl

theorem prepare_result {σ : Type} [FileStore σ] (pipeline : Pipeline) (respond : Responder)
    (store : σ) :
    (pipeline.prepare respond store).result =
      pipeline.generate store >>= fun files => (pipeline.render respond files).result := by
  unfold prepare generate
  dsimp only
  cases Event.collect {} (pipeline.events store) <;> rfl

variable {pipeline : Pipeline} {respond : Responder} {store : MemoryFiles}

/-- What a run in memory can do: fail and leave the files alone, or write all texts that it has
rendered for the files it has generated. -/
theorem run_cases (pipeline : Pipeline) (respond : Responder) (store : MemoryFiles) :
    (∃ failure, (pipeline.run respond store).result = .error failure ∧
        (pipeline.run respond store).store = store) ∨
      ∃ files texts, pipeline.generate store = .ok files ∧
        (pipeline.render respond files).result = .ok texts ∧
        (pipeline.run respond store).result = .ok (texts.map (·.1)) ∧
        (pipeline.run respond store).store = store.writeTexts texts := by
  unfold run
  dsimp only
  cases prepared : (pipeline.prepare respond store).result with
  | error failure => exact .inl ⟨failure, rfl, rfl⟩
  | ok texts =>
      rw [prepare_result, Failure.bind_eq_ok_iff] at prepared
      obtain ⟨files, generated, rendered⟩ := prepared
      dsimp only
      rw [MemoryFiles.writeAll_eq]
      exact .inr ⟨files, texts, generated, rendered, rfl, rfl⟩

/-- A run that succeeds has met all requests; what it has written are their targets. -/
theorem run_eq_ok {written : List Text}
    (success : (pipeline.run respond store).result = .ok written) :
    ∃ (fulfilled : List (Fulfilment pipeline)) (files : FileSet) (texts : List (Text × Text)),
      fulfilled.map (·.toModuleRequest) = pipeline.requests store ∧
      pipeline.generate store = .ok files ∧ (pipeline.render respond files).result = .ok texts ∧
      written = texts.map (·.1) ∧ written = Text.distinct (fulfilled.map (·.target)) ∧
      (pipeline.run respond store).store = store.writeTexts texts := by
  rcases run_cases pipeline respond store with ⟨failure, failed, _⟩ |
    ⟨files, texts, generated, rendered, result, after⟩
  · rw [failed] at success
    cases success
  · obtain rfl := Except.ok.inj (result.symm.trans success)
    rcases generate_cases pipeline store with ⟨failure, _, failed⟩ | ⟨_, fulfilled, met, outcome⟩
    · rw [failed] at generated
      cases generated
    · have same := Except.ok.inj (outcome.symm.trans generated)
      refine ⟨fulfilled, files, texts, met, generated, rendered, rfl, ?_, after⟩
      rw [render_paths rendered, ← same, FileSet.paths_ofPlacements, List.map_map]
      rfl

/-! ## Reading back -/

/-- What a successful run has written can be read back: under each path the text that was rendered
last for a path with the same normal form, and hence the path's own text when no other path written
has the same normal form. -/
theorem run_reads_back {written : List Text}
    (success : (pipeline.run respond store).result = .ok written) :
    ∃ (files : FileSet) (texts : List (Text × Text)),
      pipeline.generate store = .ok files ∧ (pipeline.render respond files).result = .ok texts ∧
      written = texts.map (·.1) ∧ written.Nodup ∧
      (∀ path ∈ written, ∃ text, MemoryFiles.lastText? texts path = some text ∧
        (pipeline.run respond store).store.read path = .ok text) ∧
      ∀ file ∈ texts,
        (∀ other ∈ written, Path.normalize other = Path.normalize file.1 → other = file.1) →
        (pipeline.run respond store).store.read file.1 = .ok file.2 := by
  obtain ⟨fulfilled, files, texts, _, generated, rendered, paths, targets, after⟩ :=
    run_eq_ok success
  have unique : written.Nodup := by
    rw [targets]
    exact Text.nodup_distinct _
  refine ⟨files, texts, generated, rendered, paths, unique, ?_, ?_⟩
  · intro path member
    cases last : MemoryFiles.lastText? texts path with
    | none =>
        have unnamed := MemoryFiles.lastText?_eq_none_iff.mp last path (paths ▸ member)
        exact absurd rfl unnamed
    | some text =>
        refine ⟨text, rfl, ?_⟩
        rw [after, MemoryFiles.read_writeTexts, last]
  · intro file member alone
    subst paths
    rw [after, MemoryFiles.read_writeTexts, MemoryFiles.lastText?_of_mem member unique alone]

/-- Files with one module, which asks for the companions of both libraries. -/
def oneModule : MemoryFiles :=
  .ofList [("src/a.ppx.ts", "/** @ts-ppx(zod, fast-check) */\nexport type A = string;\n")]

/-- The usual configuration runs on these files. -/
theorem exists_run_oneModule :
    ∃ settings pipeline,
      ({ sourceRoot := .string "src" } : Config).runSettings none = .ok settings ∧
      ofConfig settings = .ok pipeline ∧
      (pipeline.run (fun _ => .timedOut) oneModule).result =
        .ok ["src/a.ts".toList, "src/testing/a.ts".toList] ∧
      "src/a.ppx.ts".toList ∈ pipeline.modulePaths oneModule ∧
      pipeline.requestsAt oneModule "src/a.ppx.ts" ≠ [] :=
  ⟨_, _, rfl, rfl, by decide +kernel, by decide +kernel, by decide +kernel⟩

/-- The companions of a module are all read back. -/
theorem run_reads_back_companions :
    ∃ settings pipeline,
      ({ sourceRoot := .string "src" } : Config).runSettings none = .ok settings ∧
      ofConfig settings = .ok pipeline ∧
      ∃ files texts, pipeline.generate oneModule = .ok files ∧
        (pipeline.render (fun _ => .timedOut) files).result = .ok texts ∧
        texts.map (·.1) = ["src/a.ts".toList, "src/testing/a.ts".toList] ∧
        ∀ file ∈ texts,
          (pipeline.run (fun _ => .timedOut) oneModule).store.read file.1 = .ok file.2 := by
  obtain ⟨settings, pipeline, configured, settled, success, _, _⟩ := exists_run_oneModule
  obtain ⟨files, texts, generated, rendered, paths, _, _, alone⟩ := run_reads_back success
  refine ⟨settings, pipeline, configured, settled, files, texts, generated, rendered, paths.symm, ?_⟩
  intro file member
  have named : file.1 ∈ ["src/a.ts".toList, "src/testing/a.ts".toList] :=
    paths ▸ List.mem_map_of_mem member
  have apart : ∀ path ∈ ["src/a.ts".toList, "src/testing/a.ts".toList],
      ∀ other ∈ ["src/a.ts".toList, "src/testing/a.ts".toList],
        Path.normalize other = Path.normalize path → other = path := by decide
  exact alone file member (apart file.1 named)

/-- Two generators that name the same directory in two ways. -/
def twoSpellings : Config where
  sourceRoot := .string "src"
  generators := .listed [
    { name := .string "zod", fileRelocation := { subdirectory := .string "./testing" } },
    { name := .string "fast-check", fileRelocation := { subdirectory := .string "testing" } }]

/-- When two targets are two spellings of one path, the first file is lost. -/
theorem run_loses_file_under_other_spelling :
    ∃ settings pipeline,
      twoSpellings.runSettings none = .ok settings ∧ ofConfig settings = .ok pipeline ∧
      (pipeline.run (fun _ => .timedOut) oneModule).result =
        .ok ["src/./testing/a.ts".toList, "src/testing/a.ts".toList] ∧
      ∃ texts, (pipeline.prepare (fun _ => .timedOut) oneModule).result = .ok texts ∧
        ∃ file ∈ texts,
          (pipeline.run (fun _ => .timedOut) oneModule).store.read file.1 ≠ .ok file.2 := by
  obtain ⟨settings, pipeline, configured, settled, success, differs⟩ : ∃ settings pipeline,
      twoSpellings.runSettings none = .ok settings ∧
      ofConfig settings = .ok pipeline ∧
      (pipeline.run (fun _ => .timedOut) oneModule).result =
        .ok ["src/./testing/a.ts".toList, "src/testing/a.ts".toList] ∧
      (((pipeline.prepare (fun _ => .timedOut) oneModule).result.toOption.getD []).any fun file =>
        (pipeline.run (fun _ => .timedOut) oneModule).store.read file.1 ≠ .ok file.2) = true :=
    ⟨_, _, rfl, rfl, by decide +kernel, by decide +kernel⟩
  refine ⟨settings, pipeline, configured, settled, success, ?_⟩
  cases prepared : (pipeline.prepare (fun _ => .timedOut) oneModule).result with
  | error failure => simp [prepared, Except.toOption] at differs
  | ok texts =>
      refine ⟨texts, rfl, ?_⟩
      rw [prepared] at differs
      simpa [Except.toOption] using differs

/-! ## Keeping modules -/

/-- A place where no companion goes holds what it held before. A module whose requests were met keeps
its text when no companion of another module goes into its file and none of its own goes there under
another spelling of its path; under the same spelling none does. -/
theorem run_keeps_modules {written : List Text}
    (success : (pipeline.run respond store).result = .ok written) :
    ∃ fulfilled : List (Fulfilment pipeline),
      fulfilled.map (·.toModuleRequest) = pipeline.requests store ∧
      written = Text.distinct (fulfilled.map (·.target)) ∧
      (∀ path, (∀ met ∈ fulfilled, Path.normalize met.target ≠ Path.normalize path) →
        (pipeline.run respond store).store.read path = store.read path) ∧
      ∀ path ∈ pipeline.modulePaths store, pipeline.requestsAt store path ≠ [] →
        ∃ text, store.read path = .ok text ∧
          ((∀ met ∈ fulfilled, met.source.path ≠ path →
              Path.normalize met.target ≠ Path.normalize path) →
            (∀ met ∈ fulfilled, met.source.path = path →
              Path.normalize met.target = Path.normalize path → met.target = path) →
            (pipeline.run respond store).store.read path = .ok text) := by
  obtain ⟨fulfilled, files, texts, met, _, _, paths, targets, after⟩ := run_eq_ok success
  have keeps : ∀ path, (∀ met ∈ fulfilled, Path.normalize met.target ≠ Path.normalize path) →
      (pipeline.run respond store).store.read path = store.read path := by
    intro path unnamed
    have untouched : MemoryFiles.lastText? texts path = none := by
      rw [MemoryFiles.lastText?_eq_none_iff, ← paths, targets]
      intro target member
      obtain ⟨met, isMet, rfl⟩ := List.mem_map.mp (Text.mem_distinct.mp member)
      exact unnamed met isMet
    rw [after, MemoryFiles.read_writeTexts, untouched]
  refine ⟨fulfilled, met, targets, keeps, ?_⟩
  intro path _ asks
  cases reading : store.read path with
  | error failure =>
      have silent : pipeline.requestsAt store path = [] := by
        rw [requestsAt, show FileStore.read store path = .error failure from reading]
      exact absurd silent asks
  | ok text =>
      refine ⟨text, rfl, fun others own => ?_⟩
      rw [keeps path, reading]
      intro met isMet sameFile
      by_cases isOwn : met.source.path = path
      · exact met.apart ((own met isMet isOwn sameFile).trans isOwn.symm)
      · exact others met isMet isOwn sameFile

/-- A module whose companions go elsewhere keeps its text. -/
theorem run_keeps_its_module :
    ∃ settings pipeline,
      ({ sourceRoot := .string "src" } : Config).runSettings none = .ok settings ∧
      ofConfig settings = .ok pipeline ∧
      (pipeline.run (fun _ => .timedOut) oneModule).result =
        .ok ["src/a.ts".toList, "src/testing/a.ts".toList] ∧
      "src/a.ppx.ts".toList ∈ pipeline.modulePaths oneModule ∧
      pipeline.requestsAt oneModule "src/a.ppx.ts" ≠ [] ∧
      ∃ text, oneModule.read "src/a.ppx.ts" = .ok text ∧
        (pipeline.run (fun _ => .timedOut) oneModule).store.read "src/a.ppx.ts" = .ok text := by
  obtain ⟨settings, pipeline, configured, settled, success, discovered, asks⟩ :=
    exists_run_oneModule
  obtain ⟨fulfilled, _, targets, _, keeps⟩ := run_keeps_modules success
  obtain ⟨text, before, after⟩ := keeps _ discovered asks
  have elsewhere : ∀ met ∈ fulfilled,
      Path.normalize met.target ≠ Path.normalize "src/a.ppx.ts" := by
    intro met isMet
    have named : met.target ∈ ["src/a.ts".toList, "src/testing/a.ts".toList] := by
      rw [targets, Text.mem_distinct]
      exact List.mem_map_of_mem isMet
    have apart : ∀ target ∈ ["src/a.ts".toList, "src/testing/a.ts".toList],
        Path.normalize target ≠ Path.normalize "src/a.ppx.ts" := by decide
    exact apart met.target named
  have kept := after (fun met isMet _ => elsewhere met isMet)
    fun met isMet _ same => absurd same (elsewhere met isMet)
  exact ⟨settings, pipeline, configured, settled, success, discovered, asks, text, before, kept⟩

/-- An annotated module is overwritten when a companion of another one goes into its file. -/
theorem run_overwrites_other_module :
    ∃ settings pipeline,
      ({ sourceRoot := .string "src" } : Config).runSettings none = .ok settings ∧
      ofConfig settings = .ok pipeline ∧
      ∃ store : MemoryFiles,
        (pipeline.run (fun _ => .timedOut) store).result =
          .ok ["src/a.ts".toList, "src/testing/a.ts".toList] ∧
        "src/a.ts".toList ∈ pipeline.modulePaths store ∧
        pipeline.requestsAt store "src/a.ts" ≠ [] ∧
        (pipeline.run (fun _ => .timedOut) store).store.read "src/a.ts" ≠ store.read "src/a.ts" := by
  refine ⟨_, _, rfl, rfl,
    .ofList [("src/a.ppx.ts", "/** @ts-ppx(zod) */\nexport type A = string;\n"),
      ("src/a.ts", "/** @ts-ppx(fast-check) */\nexport type B = string;\n")], ?_, ?_, ?_, ?_⟩
  all_goals decide +kernel

end Pipeline

end Companion
