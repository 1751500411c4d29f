import Companion.Proofs.Files.Walk
import Companion.Proofs.Run.Directives
import Companion.Proofs.Run.Writing

/-!
# Runs after runs

A second run meets the files of the first one below the same root. They hide no module, add none that
carries a directive and leave the order of the others, so that the second run asks for the same
companions and writes what is there.
-/

set_option autoImplicit false

namespace Companion.Pipeline

open Companion.Path Companion.MemoryFiles

variable {pipeline : Pipeline} {respond : Responder} {store : MemoryFiles}

/-- The modules found below an ordinary root, by the ways to them. -/
theorem discover_eq_ok_iff {root : Text} (rootIs : pipeline.root = .path root) {rooted : Bool}
    {names : List Text} (leads : LeadsTo root rooted names) (plain : store.IsPlain)
    {paths : List Text} :
    pipeline.discover store = .ok paths ↔ store.IsDirectory rooted names ∧
      paths = (store.tracks pipeline.accepts (store.depth + 2) root).map (enter root) := by
  unfold discover
  rw [rootIs]
  dsimp only
  rcases walk_eq pipeline.accepts plain leads with ⟨directory, walked⟩ | ⟨other, failed⟩
  · simp [walked, directory, eq_comm]
  · simp [failed, other]

theorem modulePaths_eq {paths : List Text} (found : pipeline.discover store = .ok paths) :
    pipeline.modulePaths store = paths := by
  rw [modulePaths, found]
  rfl

theorem exists_discovered_of_generate {files : FileSet}
    (generated : pipeline.generate store = .ok files) :
    ∃ paths, pipeline.discover store = .ok paths := by
  unfold generate events at generated
  cases found : pipeline.discover store with
  | error failure =>
      rw [found] at generated
      cases generated
  | ok paths => exact ⟨paths, rfl⟩

/-- What is generated and rendered is written. -/
theorem run_of_rendered {files : FileSet} {texts : List (Text × Text)}
    (generated : pipeline.generate store = .ok files)
    (rendered : (pipeline.render respond files).result = .ok texts) :
    (pipeline.run respond store).result = .ok (texts.map (·.1)) ∧
      (pipeline.run respond store).store = store.writeTexts texts := by
  have prepared : (pipeline.prepare respond store).result = .ok texts := by
    rw [prepare_result, generated]
    exact rendered
  unfold run
  dsimp only
  rw [prepared]
  dsimp only
  rw [writeAll_eq]
  exact ⟨rfl, rfl⟩

section Writing

variable {root : Text} {rooted : Bool} {names : List Text} {texts : List (Text × Text)}

/-- Writing keeps the ways to the modules that carry directives, and adds none to such modules. -/
theorem mem_filter_tracks_writeTexts_iff (leads : LeadsTo root rooted names)
    (plain : store.IsPlain)
    (targets : ∀ target ∈ texts.map (·.1), Path.IsPlain (normalize target))
    (keeps : ∀ track ∈ store.tracks pipeline.accepts (store.depth + 2) root,
      pipeline.carries store (enter root track) = true →
      (store.writeTexts texts).read (enter root track) = store.read (enter root track))
    (noAncestor : ∀ target ∈ texts.map (·.1),
      ∀ track ∈ store.tracks pipeline.accepts (store.depth + 2) root,
      pipeline.carries store (enter root track) = true → ¬ IsAncestor target (enter root track))
    (silent : ∀ track ∈ (store.writeTexts texts).tracks pipeline.accepts
        ((store.writeTexts texts).depth + 2) root,
      (∃ target ∈ texts.map (·.1), normalize target = normalize (enter root track)) →
      pipeline.carries (store.writeTexts texts) (enter root track) = false) (track : List Text) :
    (track ∈ (store.writeTexts texts).tracks pipeline.accepts
        ((store.writeTexts texts).depth + 2) root ∧
      pipeline.carries (store.writeTexts texts) (enter root track) = true) ↔
    track ∈ store.tracks pipeline.accepts (store.depth + 2) root ∧
      pipeline.carries store (enter root track) = true := by
  have plainAfter : (store.writeTexts texts).IsPlain := plain.writeTexts targets
  constructor
  · -- what carries a directive has not been written, so it was there and is seen without the others
    rintro ⟨found, carrier⟩
    obtain ⟨someTrack, sees, accepted⟩ := (mem_tracks_depth_iff plainAfter leads).mp found
    have leadsTrack := sees.leadsTo leads
    have someNames : names ++ track ≠ [] := by simp [someTrack]
    have unnamed : ¬ ∃ target ∈ texts.map (·.1), normalize target = normalize (enter root track) :=
      fun named => Bool.false_ne_true ((silent track found named).symm.trans carrier)
    have same : (store.writeTexts texts).read (enter root track) =
        store.read (enter root track) := by
      have untouched : lastText? texts (enter root track) = none :=
        lastText?_eq_none_iff.mpr fun target member same => unnamed ⟨target, member, same⟩
      rw [read_writeTexts, untouched]
    refine ⟨(mem_tracks_depth_iff plain leads).mpr ⟨someTrack, ⟨?_, ?_⟩, accepted⟩,
      (carries_congr same).symm.trans carrier⟩
    · rcases sees.1.of_writeTexts with before | ⟨target, member, normal⟩
      · exact before
      · exact absurd ⟨target, member, normal.trans (leadsTrack.normalize_eq someNames).symm⟩ unnamed
    · intro first last shape someFirst someLast before
      exact sees.2 first last shape someFirst someLast before.writeTexts
  · -- a file that hides a carrier now would have been written above it
    rintro ⟨found, carrier⟩
    obtain ⟨someTrack, sees, accepted⟩ := (mem_tracks_depth_iff plain leads).mp found
    have leadsTrack := sees.leadsTo leads
    refine ⟨(mem_tracks_depth_iff plainAfter leads).mpr ⟨someTrack, ⟨sees.1.writeTexts, ?_⟩,
      accepted⟩, (carries_congr (keeps track found carrier)).trans carrier⟩
    intro first last shape someFirst someLast after
    rcases after.of_writeTexts with before | ⟨target, member, normal⟩
    · exact sees.2 first last shape someFirst someLast before
    · apply noAncestor target member track found carrier
      have someNames : names ++ first ≠ [] := by simp [someFirst]
      rw [shape, ← List.append_assoc] at leadsTrack
      rw [shape]
      exact isAncestor_of_leadsTo someNames normal someLast leadsTrack

/-- After writing the same modules that carry directives are found, in the same order. -/
theorem discover_writeTexts (rootIs : pipeline.root = .path root) (leads : LeadsTo root rooted names)
    (plain : store.IsPlain)
    (targets : ∀ target ∈ texts.map (·.1), Path.IsPlain (normalize target)) {paths : List Text}
    (found : pipeline.discover store = .ok paths)
    (noFile : ¬ (store.writeTexts texts).Holds rooted names)
    (keeps : ∀ path ∈ paths, pipeline.carries store path = true →
      (store.writeTexts texts).read path = store.read path)
    (noAncestor : ∀ target ∈ texts.map (·.1), ∀ path ∈ paths, pipeline.carries store path = true →
      ¬ IsAncestor target path)
    (silent : ∀ path ∈ pipeline.modulePaths (store.writeTexts texts),
      (∃ target ∈ texts.map (·.1), normalize target = normalize path) →
      pipeline.carries (store.writeTexts texts) path = false) :
    ∃ others, pipeline.discover (store.writeTexts texts) = .ok others ∧
      others.filter (pipeline.carries (store.writeTexts texts)) =
        paths.filter (pipeline.carries store) := by
  have plainAfter : (store.writeTexts texts).IsPlain := plain.writeTexts targets
  obtain ⟨directory, rfl⟩ := (discover_eq_ok_iff rootIs leads plain).mp found
  have foundAfter := (discover_eq_ok_iff rootIs leads plainAfter).mpr
    ⟨directory.of_holds_imp noFile Holds.writeTexts, rfl⟩
  refine ⟨_, foundAfter, ?_⟩
  rw [modulePaths_eq foundAfter] at silent
  have same := mem_filter_tracks_writeTexts_iff leads plain targets
    (fun track member => keeps _ (List.mem_map_of_mem member))
    (fun target isTarget track member => noAncestor target isTarget _ (List.mem_map_of_mem member))
    (fun track member => silent _ (List.mem_map_of_mem member))
  rw [List.filter_map, List.filter_map]
  congr 1
  -- both lists are in lexicographic order, so their members decide
  apply ((tracks_ascending _ root).filter _).eq_of_mem_iff ((tracks_ascending _ root).filter _)
  intro track
  rw [List.mem_filter, List.mem_filter]
  exact same track

end Writing

/-- When a run has written, some module found carries a directive. -/
theorem exists_carrier_of_run {written : List Text}
    (success : (pipeline.run respond store).result = .ok written) (some : written ≠ []) :
    ∃ path ∈ pipeline.modulePaths store, pipeline.carries store path = true := by
  obtain ⟨fulfilled, files, texts, requested, -, -, -, targets, -⟩ := run_eq_ok success
  have someMet : fulfilled ≠ [] := by
    rintro rfl
    exact some targets
  obtain ⟨met, more, rfl⟩ := List.exists_cons_of_ne_nil someMet
  have asked : met.toModuleRequest ∈ pipeline.requests store := by
    rw [← requested]
    exact List.mem_cons_self
  obtain ⟨path, isPath, atPath⟩ := List.mem_flatMap.mp asked
  exact ⟨path, isPath, carries_of_requestsAt_ne_nil (List.ne_nil_of_mem atPath)⟩

/-- A run whose files neither change a module that carries directives, nor stand above one, nor carry
directives themselves can be repeated: the second run succeeds with the same paths and changes
nothing. -/
theorem run_again {root : Text} (rootIs : pipeline.root = .path root) (ordinary : IsOrdinary root)
    (plain : store.IsPlain) {written : List Text}
    (success : (pipeline.run respond store).result = .ok written)
    (keeps : ∀ path ∈ pipeline.modulePaths store, pipeline.carries store path = true →
      (pipeline.run respond store).store.read path = store.read path)
    (targets : ∀ target ∈ written, Path.IsPlain (normalize target))
    (noAncestor : ∀ target ∈ written, ∀ path ∈ pipeline.modulePaths store,
      pipeline.carries store path = true → ¬ IsAncestor target path)
    (silent : ∀ path ∈ pipeline.modulePaths (pipeline.run respond store).store,
      (∃ target ∈ written, normalize target = normalize path) →
      pipeline.carries (pipeline.run respond store).store path = false) :
    (pipeline.run respond (pipeline.run respond store).store).result = .ok written ∧
      (pipeline.run respond (pipeline.run respond store).store).store =
        (pipeline.run respond store).store := by
  obtain ⟨rooted, names, leads⟩ := ordinary
  obtain ⟨-, files, texts, -, generated, rendered, rfl, -, after⟩ := run_eq_ok success
  obtain ⟨paths, found⟩ := exists_discovered_of_generate generated
  rw [after] at keeps silent ⊢
  rw [modulePaths_eq found] at keeps noAncestor
  obtain ⟨directory, isPaths⟩ := (discover_eq_ok_iff rootIs leads plain).mp found
  -- a file at the root would stand above the modules that have asked for it
  have noFile : ¬ (store.writeTexts texts).Holds rooted names := by
    intro holds
    rcases holds.of_writeTexts with before | ⟨target, isTarget, normal⟩
    · exact directory.1 before
    · obtain ⟨path, isPath, carrier⟩ := exists_carrier_of_run success (List.ne_nil_of_mem isTarget)
      rw [modulePaths_eq found] at isPath
      apply noAncestor target isTarget path isPath carrier
      rw [isPaths] at isPath
      obtain ⟨track, isTrack, rfl⟩ := List.mem_map.mp isPath
      obtain ⟨someTrack, sees, -⟩ := (mem_tracks_depth_iff plain leads).mp isTrack
      have someNames := (plain.writeTexts targets).ne_nil_of_holds holds
      exact isAncestor_of_leadsTo someNames normal someTrack (sees.leadsTo leads)
  obtain ⟨others, foundAfter, same⟩ :=
    discover_writeTexts rootIs leads plain targets found noFile keeps noAncestor silent
  have generatedAfter : pipeline.generate (store.writeTexts texts) = .ok files :=
    (generate_congr found foundAfter same keeps).trans generated
  obtain ⟨result, stays⟩ := run_of_rendered generatedAfter rendered
  exact ⟨result, stays.trans (writeTexts_writeTexts store texts)⟩

/-- The second run finds what the first one has generated, and generates the same again. -/
theorem run_again_on_generated :
    ∃ settings pipeline,
      ({ sourceRoot := .string "src" } : Config).runSettings none = .ok settings ∧
      ofConfig settings = .ok pipeline ∧
      ∃ after, (pipeline.run (fun _ => .timedOut) oneModule).store = after ∧
        pipeline.modulePaths after =
          ["src/a.ppx.ts".toList, "src/a.ts".toList, "src/testing/a.ts".toList] ∧
        (pipeline.run (fun _ => .timedOut) after).result =
          .ok ["src/a.ts".toList, "src/testing/a.ts".toList] ∧
        (pipeline.run (fun _ => .timedOut) after).store = after := by
  obtain ⟨settings, pipeline, configured, settled, rootIs, success, keeps, noAncestor, silent,
      found⟩ : ∃ settings pipeline,
      ({ sourceRoot := .string "src" } : Config).runSettings none = .ok settings ∧
      ofConfig settings = .ok pipeline ∧ pipeline.root = .path "src" ∧
      (pipeline.run (fun _ => .timedOut) oneModule).result =
        .ok ["src/a.ts".toList, "src/testing/a.ts".toList] ∧
      (∀ path ∈ pipeline.modulePaths oneModule, pipeline.carries oneModule path = true →
        (pipeline.run (fun _ => .timedOut) oneModule).store.read path = oneModule.read path) ∧
      (∀ target ∈ ["src/a.ts".toList, "src/testing/a.ts".toList],
        ∀ path ∈ pipeline.modulePaths oneModule, pipeline.carries oneModule path = true →
        ¬ IsAncestor target path) ∧
      (∀ path ∈ pipeline.modulePaths (pipeline.run (fun _ => .timedOut) oneModule).store,
        (∃ target ∈ ["src/a.ts".toList, "src/testing/a.ts".toList],
          normalize target = normalize path) →
        pipeline.carries (pipeline.run (fun _ => .timedOut) oneModule).store path = false) ∧
      pipeline.modulePaths (pipeline.run (fun _ => .timedOut) oneModule).store =
        ["src/a.ppx.ts".toList, "src/a.ts".toList, "src/testing/a.ts".toList] :=
    ⟨_, _, rfl, rfl, rfl, by decide +kernel, by decide +kernel, by decide +kernel,
      by decide +kernel, by decide +kernel⟩
  have ordinary : IsOrdinary "src" := ⟨false, ["src"], rfl, rfl, by decide⟩
  have plain : oneModule.IsPlain := by
    unfold MemoryFiles.IsPlain
    decide
  obtain ⟨result, stays⟩ :=
    run_again rootIs ordinary plain success keeps (by decide) noAncestor silent
  exact ⟨settings, pipeline, configured, settled, _, rfl, found, result, stays⟩

end Companion.Pipeline
