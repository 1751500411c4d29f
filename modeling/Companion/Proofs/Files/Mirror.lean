import Companion.Proofs.Files.Targets
import Companion.Proofs.Files.Walk
import Companion.Proofs.Path.Home
import Companion.Proofs.Text.Lines

/-!
# Disks and files in memory

A tree on disk mirrors files in memory when the same files hold the same texts. Directories without
files, which only the disk knows, add nothing to a walk; what is read is the same; and a target that
the disk admits can be written on both sides, so that they mirror each other again.
-/

set_option autoImplicit false

namespace Companion.Disk

open Companion.Path

/-- The tree on disk has the files in memory, all of which have relative paths, and no others. -/
structure Mirrors (disk : Disk) (files : MemoryFiles) : Prop where
  isTree : disk.IsTree
  isRelative : ∀ key ∈ files.keys, IsRelativePlain key
  file? : ∀ place, place ≠ [] → (∀ name ∈ place, IsName name) →
    disk.file? place = (files.get? (ofNames false place)).map Utf8.encode

/-- What a walk on disk does with an entry. -/
def visit (disk : Disk) (accepts : Text → Bool) (fuel : Nat) (path : Text) :
    Except Failure (List Text) := do
  let stat ← disk.stat path
  if stat.isDirectory then FileStore.walkWithin disk accepts fuel path
  else if stat.isFile && accepts path then pure [path]
  else pure []

theorem walkWithin_succ (disk : Disk) (accepts : Text → Bool) (fuel : Nat) (path : Text) :
    FileStore.walkWithin disk accepts (fuel + 1) path =
      disk.list path >>= fun entries =>
        entries.mapM (disk.visit accepts fuel) >>= fun found => pure found.flatten := rfl

/-- Items that contribute nothing may be left out. -/
private theorem flatMap_filter {α β : Type} (keep : α → Bool) (items : List α) (part : α → List β)
    (nothing : ∀ item ∈ items, keep item = false → part item = []) :
    (items.filter keep).flatMap part = items.flatMap part := by
  induction items with
  | nil => rfl
  | cons item rest ih =>
      have others := ih fun other member => nothing other (List.mem_cons_of_mem _ member)
      cases kept : keep item with
      | true => rw [List.filter_cons_of_pos kept, List.flatMap_cons, List.flatMap_cons, others]
      | false =>
          rw [List.filter_cons_of_neg (by simp [kept]), others, List.flatMap_cons,
            nothing item List.mem_cons_self kept, List.nil_append]

variable {disk : Disk} {files : MemoryFiles} {path : Text} {names : List Text}
  {accepts : Text → Bool}

namespace Mirrors

theorem isPlain (mirrors : disk.Mirrors files) : files.IsPlain :=
  fun key member => (mirrors.isRelative key member).1

/-- The files are at the same places. -/
theorem isFile_iff (mirrors : disk.Mirrors files) :
    disk.isFile names = true ↔ files.Holds false names := by
  constructor
  · intro file
    have some : names ≠ [] := by
      rintro rfl
      cases mirrors.isTree.isDirectory_of_isFile file
    have areNames : ∀ name ∈ names, IsName name :=
      fun name member => (mirrors.isTree.named_of_isThere (.inr file) name member).1
    rw [isFile, mirrors.file? names some areNames, Option.isSome_map,
      MemoryFiles.get?_isSome_iff] at file
    exact ⟨areNames, file⟩
  · intro holds
    have some := mirrors.isPlain.ne_nil_of_holds holds
    rw [isFile, mirrors.file? names some holds.1, Option.isSome_map, MemoryFiles.get?_isSome_iff]
    exact holds.2

theorem isDirectory_of_isDirectory (mirrors : disk.Mirrors files)
    (directory : files.IsDirectory false names) : disk.isDirectory names = true := by
  rcases directory.2 with ⟨-, rfl⟩ | ⟨name, rest, holds⟩
  · rfl
  · exact mirrors.isTree.isDirectory_of_append (.inr (mirrors.isFile_iff.mpr holds))
      (List.cons_ne_nil name rest)

/-! ## Walks -/

theorem contains_iff (mirrors : disk.Mirrors files) (spells : Spells path names) :
    files.contains path = true ↔ disk.isFile names = true := by
  rw [MemoryFiles.contains_iff mirrors.isPlain spells.leadsTo, mirrors.isFile_iff]

/-- In memory a directory has those entries of the one on disk that lead to files. -/
theorem names_eq_filter (mirrors : disk.Mirrors files) (spells : Spells path names) :
    files.names (normalize path) =
      (disk.entryNames names).filter fun name => name ∈ files.names (normalize path) := by
  apply (Text.ascending_sortedDistinct _).eq_of_mem_iff
    ((Text.ascending_sortedDistinct _).filter _)
  intro name
  rw [List.mem_filter, decide_eq_true_eq]
  refine ⟨fun member => ⟨?_, member⟩, And.right⟩
  obtain ⟨rest, holds⟩ := (MemoryFiles.mem_names_iff mirrors.isPlain spells.leadsTo).mp member
  have file : disk.IsThere (names ++ [name] ++ rest) := by
    rw [List.append_assoc]
    exact .inr (mirrors.isFile_iff.mpr holds)
  exact IsTree.mem_entryNames_iff.mpr (mirrors.isTree.isThere_of_append file)

/-- An entry on disk that does not lead to a file contributes nothing. -/
theorem through_eq_nil (mirrors : disk.Mirrors files) (spells : Spells path names) {name : Text}
    (isName : IsName name) (hidden : name ∉ files.names (normalize path)) (fuel : Nat) :
    files.through accepts path name (files.tracks accepts fuel (join path name)) = [] := by
  have noFile : ∀ rest, ¬ files.Holds false (names ++ name :: rest) := fun rest holds =>
    hidden ((MemoryFiles.mem_names_iff mirrors.isPlain spells.leadsTo).mpr ⟨rest, holds⟩)
  have next := spells.leadsTo.join isName
  have absent : ¬ files.contains (join path name) = true := fun there =>
    noFile [] ((MemoryFiles.contains_iff mirrors.isPlain next).mp there)
  rw [MemoryFiles.through, if_neg absent, List.map_eq_nil_iff, List.eq_nil_iff_forall_not_mem]
  intro track member
  obtain ⟨-, -, sees, -⟩ := (MemoryFiles.mem_tracks_iff mirrors.isPlain next).mp member
  have holds := sees.1
  rw [List.append_assoc] at holds
  exact noFile track holds

/-- A walk on disk finds what one in memory finds. -/
theorem walkWithin_eq (mirrors : disk.Mirrors files) {fuel : Nat} (spells : Spells path names)
    (passable : disk.IsPassable path names) (directory : disk.isDirectory names = true)
    (deep : disk.depth + 1 ≤ fuel + names.length) :
    FileStore.walkWithin disk accepts fuel path =
      .ok ((files.tracks accepts fuel path).map (enter path)) := by
  induction fuel generalizing path names with
  | zero =>
      have within := mirrors.isTree.length_le_depth directory
      omega
  | succ fuel ih =>
      have each : ∀ name ∈ disk.entryNames names,
          disk.visit accepts fuel (join path name) =
            .ok ((files.through accepts path name
              (files.tracks accepts fuel (join path name))).map (enter path)) := by
        intro name member
        have there := IsTree.mem_entryNames_iff.mp member
        have isName : IsName name :=
          (mirrors.isTree.named_of_isThere there name (by simp)).1
        have next := spells.join isName
        have nextPassable := passable.join name
        have contained := mirrors.contains_iff next
        rw [visit, mirrors.isTree.stat_eq next (nextPassable.passes there) there,
          MemoryFiles.through]
        rcases there with isDirectory | isFile
        · have nextDeep : disk.depth + 1 ≤ fuel + (names ++ [name]).length := by
            rw [List.length_append, List.length_singleton]
            omega
          rw [mirrors.isTree.isFile_of_isDirectory isDirectory] at contained
          rw [if_neg (mt contained.mp Bool.false_ne_true), List.map_map, isDirectory]
          exact ih next nextPassable isDirectory nextDeep
        · rw [if_pos (contained.mpr isFile), isFile, mirrors.isTree.isDirectory_of_isFile isFile]
          by_cases accepted : accepts (join path name) = true <;>
            simp [accepted, bind, Except.bind, pure, Except.pure]
      rw [walkWithin_succ, mirrors.isTree.list_eq spells (passable.passes (.inl directory)) directory,
        Failure.bind_eq_ok_iff]
      refine ⟨_, rfl, ?_⟩
      rw [List.mapM_map, Function.comp_def, Failure.mapM_eq_ok_map each, MemoryFiles.tracks,
        mirrors.names_eq_filter spells, flatMap_filter, List.map_flatMap, List.flatMap_def]
      · rfl
      · intro name member hidden
        have there := IsTree.mem_entryNames_iff.mp member
        exact mirrors.through_eq_nil spells
          (mirrors.isTree.named_of_isThere there name (by simp)).1 (by simpa using hidden) fuel

/-- Both walks from a directory end with the same list. -/
theorem walk_eq (mirrors : disk.Mirrors files) (spells : Spells path names)
    (passable : disk.IsPassable path names) (directory : files.IsDirectory false names) :
    ∃ tracks : List (List Text), (∀ track ∈ tracks, files.Sees false names track) ∧
      FileStore.walk files accepts path = .ok (tracks.map (enter path)) ∧
      FileStore.walk disk accepts path = .ok (tracks.map (enter path)) := by
  have plain := mirrors.isPlain
  have leads := spells.leadsTo
  have onDisk : FileStore.walk disk accepts path =
      .ok ((files.tracks accepts (disk.depth + 2) path).map (enter path)) :=
    mirrors.walkWithin_eq spells passable (mirrors.isDirectory_of_isDirectory directory)
      (Nat.le_trans (Nat.le_succ (disk.depth + 1)) (Nat.le_add_right _ _))
  have inMemory : FileStore.walk files accepts path =
      .ok ((files.tracks accepts (files.depth + 2) path).map (enter path)) := by
    rcases MemoryFiles.walk_eq accepts plain leads with ⟨-, walked⟩ | ⟨other, -⟩
    · exact walked
    · exact absurd directory other
  -- neither bound is met by a way to a file
  have same : files.tracks accepts (disk.depth + 2) path =
      files.tracks accepts (files.depth + 2) path := by
    apply (MemoryFiles.tracks_ascending _ path).eq_of_mem_iff (MemoryFiles.tracks_ascending _ path)
    intro track
    rw [MemoryFiles.mem_tracks_depth_iff plain leads, MemoryFiles.mem_tracks_iff plain leads]
    refine and_congr_right fun _ => and_iff_right_of_imp fun ⟨sees, _⟩ => ?_
    have above := mirrors.isTree.length_le_depth
      (mirrors.isTree.isDirectory_dropLast (.inr (mirrors.isFile_iff.mpr sees.1)))
    rw [List.length_dropLast, List.length_append] at above
    omega
  refine ⟨_, fun track member => ?_, inMemory, by rw [onDisk, same]⟩
  exact ((MemoryFiles.mem_tracks_depth_iff plain leads).mp member).2.1

/-! ## Reading -/

/-- A file without carriage returns is read alike. -/
theorem read_eq (mirrors : disk.Mirrors files)
    (clean : ∀ entry ∈ files.entries, '\r' ∉ entry.2) (spells : Spells path names)
    (passes : refusal? path = none) (holds : files.Holds false names) :
    disk.read path = files.read path := by
  have some := mirrors.isPlain.ne_nil_of_holds holds
  obtain ⟨text, found⟩ := Option.isSome_iff_exists.mp (MemoryFiles.get?_isSome_iff.mpr holds.2)
  have held : disk.file? names = .some (Utf8.encode text) := by
    rw [mirrors.file? names some holds.1, found]
    rfl
  rw [mirrors.isTree.read_eq spells passes held, decode, Utf8.decode_encode, MemoryFiles.read,
    spells.leadsTo.normalize_eq some, found]
  obtain ⟨before, behind, entries, -⟩ := List.lookup_eq_some_iff.mp found
  have cleanText : '\r' ∉ text := clean (ofNames false names, text) (by simp [entries])
  dsimp only
  rw [Text.universalNewlines_eq_self cleanText]

/-! ## Writing -/

/-- An admitted target is written on both sides, and other targets stay admitted. -/
theorem write (mirrors : disk.Mirrors files) {targets : List Text} {target : Text}
    (admits : disk.Admits targets target) (member : target ∈ targets) (text : Text) :
    ∃ later, AtomicWrite.write {} acceptAll disk target text = (.ok (), later) ∧
      (∀ other ∈ targets, disk.Admits targets other → later.Admits targets other) ∧
      later.Mirrors (files.write target text) := by
  obtain ⟨later, success, written⟩ := admits.write mirrors.isTree.working member text
  have tree := written.isTree mirrors.isTree admits member
  have some : disk.placeOf target ≠ [] := by
    intro top
    have directory := admits.noDirectory
    rw [top] at directory
    cases directory
  have leads : LeadsTo target false (disk.placeOf target) := by
    refine ⟨rootSlashes_of_relative admits.relative, ?_, fun name inside => ?_⟩
    · rw [placeOf_eq_reached mirrors.isTree.working admits.relative]
      exact components_eq_reached admits.relative admits.staysInside
    · have there : later.IsThere (disk.placeOf target) := .inr (written.isFile_iff.mpr (.inl rfl))
      exact (tree.named_of_isThere there name inside).1
  have key := leads.normalize_eq some
  refine ⟨later, success, fun other isOther => written.admits member admits.toIsFree isOther,
    tree, ?_, ?_⟩
  · intro other isKey
    rcases MemoryFiles.mem_map_fst_put.mp isKey with rfl | before
    · exact isRelativePlain_iff.mpr ⟨_, some, leads.areNames, key⟩
    · exact mirrors.isRelative other before
  · intro place somePlace areNames
    have sameKey : ofNames false place = normalize target ↔ place = disk.placeOf target := by
      rw [key]
      constructor
      · intro same
        exact (ofNames_injective somePlace some (fun name inside => (areNames name inside).isPart)
          (fun name inside => (leads.areNames name inside).isPart) same).2
      · rintro rfl
        rfl
    rw [written.file?, MemoryFiles.get?, MemoryFiles.write, MemoryFiles.lookup_put]
    by_cases here : place = disk.placeOf target
    · rw [if_pos here, if_pos (sameKey.mpr here)]
      rfl
    · rw [if_neg here, if_neg (mt sameKey.mp here), mirrors.file? place somePlace areNames]
      rfl

/-- All of some targets that the disk admits are written on both sides. -/
theorem writeAll (mirrors : disk.Mirrors files) {targets : List Text} {texts : List (Text × Text)}
    (members : ∀ target ∈ texts.map (·.1), target ∈ targets)
    (admits : ∀ target ∈ targets, disk.Admits targets target) :
    ∃ later, FileStore.writeAll disk texts = (.ok (), texts.map (·.1), later) ∧
      later.Mirrors (files.writeTexts texts) := by
  induction texts generalizing disk files with
  | nil => exact ⟨disk, rfl, mirrors⟩
  | cons file rest ih =>
      have member := members file.1 List.mem_cons_self
      obtain ⟨between, success, stillAdmits, mirrorsNext⟩ :=
        mirrors.write (admits file.1 member) member file.2
      obtain ⟨later, successRest, mirrorsLater⟩ := ih mirrorsNext
        (fun target isTarget => members target (List.mem_cons_of_mem _ isTarget))
        fun target isTarget => stillAdmits target isTarget (admits target isTarget)
      have step : FileStore.write disk file.1 file.2 = (.ok (), between) := success
      refine ⟨later, ?_, mirrorsLater⟩
      rw [FileStore.writeAll, step]
      dsimp only
      rw [successRest]
      rfl

end Mirrors

/-! ## Given files -/

end Companion.Disk
