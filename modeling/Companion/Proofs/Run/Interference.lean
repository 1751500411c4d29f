import Companion.Proofs.Run.Rerun

/-!
# Files that do not matter

A file without directives may be written anywhere but above other files: whichever directories it
brings into being and wherever it stands among the modules, the same is generated as without it.
-/

set_option autoImplicit false

namespace Companion.Pipeline

open Companion.Path Companion.MemoryFiles

variable {pipeline : Pipeline} {store : MemoryFiles} {root path text : Text}

/-- The modules found below a plain path are stored under the paths that they are found by. -/
theorem isPlain_of_mem_modulePaths (rootIs : pipeline.root = .path root)
    (rootPlain : Path.IsPlain root) (plain : store.IsPlain)
    (member : path ∈ pipeline.modulePaths store) : Path.IsPlain path ∧ path ∈ store.keys := by
  obtain ⟨rooted, names, someName, areNames, rfl⟩ := isPlain_iff.mp rootPlain
  have leads : LeadsTo (ofNames rooted names) rooted names := leadsTo_ofNames rooted areNames
  cases found : pipeline.discover store with
  | error failure =>
      rw [modulePaths, found] at member
      cases member
  | ok paths =>
      obtain ⟨-, isPaths⟩ := (discover_eq_ok_iff rootIs leads plain).mp found
      rw [modulePaths_eq found, isPaths] at member
      obtain ⟨track, isTrack, rfl⟩ := List.mem_map.mp member
      obtain ⟨-, sees, -⟩ := (mem_tracks_depth_iff plain leads).mp isTrack
      have trackNames : ∀ name ∈ track, IsName name :=
        fun name isName => sees.1.1 name (List.mem_append_right _ isName)
      rw [enter_ofNames areNames trackNames]
      exact ⟨plain _ sees.1.2, sees.1.2⟩

theorem carries_write_of_silent
    (silent : pipeline.annotated (pipeline.readModule path text) = .ok []) :
    pipeline.carries (store.write path text) path = false := by
  have reading : FileStore.read (store.write path text) path = .ok text := by
    change (store.write path text).read path = .ok text
    rw [read_write, if_pos rfl]
  unfold carries
  rw [reading]
  dsimp only
  rw [silent]
  rfl

/-- Writing a file without directives does not change what is generated, be it companions or a
failure, unless the file takes the place of a module with directives or stands above other files. -/
theorem generate_write_of_silent (rootIs : pipeline.root = .path root)
    (rootPlain : Path.IsPlain root) (plain : store.IsPlain) {entries : List Text}
    (listed : store.list root = .ok entries) (pathPlain : Path.IsPlain path)
    (silent : pipeline.annotated (pipeline.readModule path text) = .ok [])
    (free : path ∈ pipeline.modulePaths store → pipeline.carries store path = false)
    (noAncestor : ∀ key ∈ store.keys, ¬ IsAncestor path key) :
    pipeline.generate (store.write path text) = pipeline.generate store := by
  obtain ⟨rooted, names, someName, areNames, rfl⟩ := isPlain_iff.mp rootPlain
  have leads : LeadsTo (ofNames rooted names) rooted names := leadsTo_ofNames rooted areNames
  have directory : store.IsDirectory rooted names := by
    rcases list_eq plain leads with ⟨directory, -⟩ | ⟨-, failed⟩
    · exact directory
    · rw [failed] at listed
      cases listed
  have found := (discover_eq_ok_iff rootIs leads plain).mpr ⟨directory, rfl⟩
  have targets : ∀ target ∈ [(path, text)].map (·.1), Path.IsPlain (normalize target) := by
    intro target member
    obtain rfl : target = path := by simpa using member
    rwa [pathPlain.normalize_eq]
  -- in the place of the root the file would stand above the files that make the root a directory
  have noFile : ¬ (store.writeTexts [(path, text)]).Holds rooted names := by
    intro holds
    rcases holds.of_writeTexts with before | ⟨target, isTarget, normal⟩
    · exact directory.1 before
    · obtain rfl : target = path := by simpa using isTarget
      rcases directory.2 with ⟨-, none⟩ | ⟨name, rest, below⟩
      · exact someName none
      · exact noAncestor _ below.2 (isAncestor_of_leadsTo someName normal (by simp)
          (leadsTo_ofNames rooted below.1))
  have keeps : ∀ other ∈ pipeline.modulePaths store, pipeline.carries store other = true →
      (store.writeTexts [(path, text)]).read other = store.read other := by
    intro other member carrier
    have otherPlain := (isPlain_of_mem_modulePaths rootIs rootPlain plain member).1
    change (store.write path text).read other = store.read other
    rw [read_write, if_neg]
    rw [otherPlain.normalize_eq, pathPlain.normalize_eq]
    rintro rfl
    rw [free member] at carrier
    cases carrier
  have stays : ∀ target ∈ [(path, text)].map (·.1), ∀ other ∈ pipeline.modulePaths store,
      pipeline.carries store other = true → ¬ IsAncestor target other := by
    intro target isTarget other member _
    obtain rfl : target = path := by simpa using isTarget
    exact noAncestor other (isPlain_of_mem_modulePaths rootIs rootPlain plain member).2
  have silentAfter : ∀ other ∈ pipeline.modulePaths (store.writeTexts [(path, text)]),
      (∃ target ∈ [(path, text)].map (·.1), normalize target = normalize other) →
      pipeline.carries (store.writeTexts [(path, text)]) other = false := by
    rintro other member ⟨target, isTarget, same⟩
    obtain rfl : target = path := by simpa using isTarget
    have otherPlain := (isPlain_of_mem_modulePaths rootIs rootPlain (plain.writeTexts targets)
      member).1
    rw [otherPlain.normalize_eq, pathPlain.normalize_eq] at same
    subst same
    exact carries_write_of_silent silent
  rw [modulePaths_eq found] at keeps stays
  obtain ⟨others, foundAfter, same⟩ :=
    discover_writeTexts rootIs leads plain targets found noFile keeps stays silentAfter
  exact generate_congr found foundAfter same keeps

/-- A file in a new directory, which sorts in front of the module that is there. -/
theorem generate_write_in_new_directory :
    ∃ settings pipeline,
      ({ sourceRoot := .string "src" } : Config).runSettings none = .ok settings ∧
      ofConfig settings = .ok pipeline ∧
      pipeline.modulePaths (oneModule.write "src/_new/b.ts" "export type B = string;\n") =
        ["src/_new/b.ts".toList, "src/a.ppx.ts".toList] ∧
      pipeline.generate (oneModule.write "src/_new/b.ts" "export type B = string;\n") =
        pipeline.generate oneModule := by
  obtain ⟨settings, pipeline, configured, settled, rootIs, silent, discovered, before⟩ :
      ∃ settings pipeline,
        ({ sourceRoot := .string "src" } : Config).runSettings none = .ok settings ∧
        ofConfig settings = .ok pipeline ∧ pipeline.root = .path "src" ∧
        (pipeline.annotated (pipeline.readModule "src/_new/b.ts"
          "export type B = string;\n")).toOption.map List.isEmpty = some true ∧
        pipeline.modulePaths (oneModule.write "src/_new/b.ts" "export type B = string;\n") =
          ["src/_new/b.ts".toList, "src/a.ppx.ts".toList] ∧
        pipeline.modulePaths oneModule = ["src/a.ppx.ts".toList] :=
    ⟨_, _, rfl, rfl, rfl, by decide +kernel, by decide +kernel, by decide +kernel⟩
  have unmarked : pipeline.annotated (pipeline.readModule "src/_new/b.ts"
      "export type B = string;\n") = .ok [] := by
    simpa [Failure.toOption_eq_some_iff] using silent
  have plain : oneModule.IsPlain := by
    unfold MemoryFiles.IsPlain
    decide
  have listed : oneModule.list "src" = .ok ["src/a.ppx.ts".toList] := by decide
  have absent : "src/_new/b.ts".toList ∉ pipeline.modulePaths oneModule := by
    rw [before]
    decide
  exact ⟨settings, pipeline, configured, settled, discovered,
    generate_write_of_silent rootIs (by decide) plain listed (by decide) unmarked
      (fun member => absurd member absent) (by decide)⟩

end Companion.Pipeline
