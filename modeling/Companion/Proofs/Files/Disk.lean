import Companion.Proofs.Files.AtomicWrite
import Companion.Proofs.Path.Spelling
import Companion.Proofs.Text.Order

/-!
# Disks as trees

A disk whose top is the working directory is a tree when each entry lies in a directory and none is
both a directory and a file. On such a disk a spelled path leads to the place of its names as soon as
there is something at this place and the path is not refused.
-/

set_option autoImplicit false

namespace Companion.Disk

open Companion.Path

/-! ## Paths that are not refused -/

theorem refusal?_eq_none_iff {path : Text} :
    refusal? path = none ↔ '\x00' ∉ path ∧ (Utf8.encode path).length ≤ 4095 := by
  unfold refusal? isLongPath
  by_cases null : '\x00' ∈ path
  · simp [null]
  · simp [null]

theorem refusal?_of_sublist {part path : Text} (inside : part.Sublist path)
    (passes : refusal? path = none) : refusal? part = none := by
  obtain ⟨clean, fits⟩ := refusal?_eq_none_iff.mp passes
  have shorter : (Utf8.encode part).length ≤ (Utf8.encode path).length :=
    (inside.flatMap Utf8.encodeChar).length_le
  exact refusal?_eq_none_iff.mpr ⟨fun member => clean (inside.subset member), shorter.trans fits⟩

/-- With the names of a path some of them may be gone through. -/
theorem refusal?_spell {slashes : Text} {some names : List Text} (inside : some.Sublist names)
    (passes : refusal? (spell slashes names) = none) : refusal? (spell slashes some) = none := by
  have shorter := (List.Sublist.refl slashes).append (Text.join_sublist ['/'] inside)
  by_cases none : slashes ++ Text.join ['/'] some = []
  · simp [spell, none]
    decide
  · have someNames : slashes ++ Text.join ['/'] names ≠ [] := by
      intro empty
      rw [empty] at shorter
      exact none (List.sublist_nil.mp shorter)
    rw [spell, if_neg (by simpa using someNames)] at passes
    rw [spell, if_neg (by simpa using none)]
    exact refusal?_of_sublist shorter passes

theorem refusal?_parent {path : Text} (passes : refusal? (tidy path) = none) :
    refusal? (parent path) = none :=
  refusal?_spell (List.dropLast_sublist _) passes

theorem refusal?_tidy {path : Text} (relative : isAbsolute path = false)
    (passes : refusal? path = none) : refusal? (tidy path) = none := by
  have whole : refusal? (spell [] (Text.splitOn '/' path)) = none := by
    rw [spell, List.nil_append, Text.join_splitOn]
    split
    · decide
    · exact passes
  rw [tidy, rootSlashes_of_relative relative]
  exact refusal?_spell List.filter_sublist whole

/-! ## Trees -/

/-- The places of all directories and files. -/
def places (disk : Disk) : List Place := disk.directories ++ disk.files.map (·.1)

/-- The disk is a tree of short names with the working directory at its top. -/
structure IsTree (disk : Disk) : Prop where
  working : disk.working = none
  named : ∀ place ∈ disk.places, ∀ name ∈ place, IsName name ∧ isLongName name = false
  above : ∀ place ∈ disk.places, disk.isDirectory place.dropLast = true
  apart : ∀ place ∈ disk.files.map (·.1), disk.isDirectory place = false

theorem isTree_iff {disk : Disk} : disk.IsTree ↔
    disk.working = none ∧
      (∀ place ∈ disk.places, ∀ name ∈ place, IsName name ∧ isLongName name = false) ∧
      (∀ place ∈ disk.places, disk.isDirectory place.dropLast = true) ∧
      ∀ place ∈ disk.files.map (·.1), disk.isDirectory place = false :=
  ⟨fun ⟨working, named, above, apart⟩ => ⟨working, named, above, apart⟩,
    fun ⟨working, named, above, apart⟩ => ⟨working, named, above, apart⟩⟩

instance (disk : Disk) : Decidable disk.IsTree := decidable_of_iff' _ isTree_iff

/-- There is a directory or a file at the place. -/
def IsThere (disk : Disk) (place : Place) : Prop :=
  disk.isDirectory place = true ∨ disk.isFile place = true

variable {disk : Disk} {place names : Place} {path name : Text}

theorem isDirectory_iff : disk.isDirectory place = true ↔ place = [] ∨ place ∈ disk.directories := by
  simp [isDirectory]

theorem isThere_iff : disk.IsThere place ↔ place = [] ∨ place ∈ disk.places := by
  rw [IsThere, isDirectory_iff, isFile_iff, places, List.mem_append, or_assoc]

/-- No path by which something at or below a directory is spelled from it is refused. -/
def IsPassable (disk : Disk) (path : Text) (names : Place) : Prop :=
  ∀ track, disk.IsThere (names ++ track) → refusal? (enter path track) = none

theorem isPassable_iff : disk.IsPassable path names ↔ ∀ place ∈ [] :: disk.places,
    names <+: place → refusal? (enter path (place.drop names.length)) = none := by
  constructor
  · rintro passable place member ⟨track, rfl⟩
    rw [List.drop_left]
    exact passable track (isThere_iff.mpr (List.mem_cons.mp member))
  · intro listed track there
    have passes := listed _ (List.mem_cons.mpr (isThere_iff.mp there)) (List.prefix_append ..)
    rwa [List.drop_left] at passes

instance : Decidable (disk.IsPassable path names) := decidable_of_iff' _ isPassable_iff

theorem IsPassable.passes (passable : disk.IsPassable path names) (there : disk.IsThere names) :
    refusal? path = none :=
  passable [] (by rwa [List.append_nil])

theorem IsPassable.join (passable : disk.IsPassable path names) (name : Text) :
    disk.IsPassable (join path name) (names ++ [name]) := by
  intro track there
  rw [List.append_assoc] at there
  exact passable (name :: track) there

namespace IsTree

theorem of_isThere (working : disk.working = none)
    (named : ∀ place, disk.IsThere place → ∀ name ∈ place, IsName name ∧ isLongName name = false)
    (above : ∀ place, disk.IsThere place → disk.isDirectory place.dropLast = true)
    (apart : ∀ place, disk.isFile place = true → disk.isDirectory place = false) : disk.IsTree where
  working := working
  named := fun place member => named place (isThere_iff.mpr (.inr member))
  above := fun place member => above place (isThere_iff.mpr (.inr member))
  apart := fun place member => apart place (isFile_iff.mpr member)

theorem isDirectory_of_isFile (tree : disk.IsTree) (file : disk.isFile place = true) :
    disk.isDirectory place = false :=
  tree.apart place (isFile_iff.mp file)

theorem isFile_of_isDirectory (tree : disk.IsTree) (directory : disk.isDirectory place = true) :
    disk.isFile place = false := by
  by_contra file
  rw [tree.isDirectory_of_isFile ((Bool.not_eq_false _).mp file)] at directory
  cases directory

theorem named_of_isThere (tree : disk.IsTree) (there : disk.IsThere place) :
    ∀ name ∈ place, IsName name ∧ isLongName name = false := by
  rcases isThere_iff.mp there with rfl | member
  · exact List.forall_mem_nil _
  · exact tree.named place member

theorem isDirectory_dropLast (tree : disk.IsTree) (there : disk.IsThere place) :
    disk.isDirectory place.dropLast = true := by
  rcases isThere_iff.mp there with rfl | member
  · rfl
  · exact tree.above place member

/-- What lies deeper lies in a directory. -/
theorem isDirectory_of_append (tree : disk.IsTree) (there : disk.IsThere (place ++ names))
    (some : names ≠ []) : disk.isDirectory place = true := by
  induction names using List.reverseRecOn with
  | nil => exact absurd rfl some
  | append_singleton front name ih =>
      have above := tree.isDirectory_dropLast there
      rw [← List.append_assoc, List.dropLast_concat] at above
      by_cases none : front = []
      · simpa [none] using above
      · exact ih (.inl above) none

theorem isThere_of_append (tree : disk.IsTree) (there : disk.IsThere (place ++ names)) :
    disk.IsThere place := by
  by_cases none : names = []
  · rwa [none, List.append_nil] at there
  · exact .inl (tree.isDirectory_of_append there none)

/-! ## Following names -/

theorem step (tree : disk.IsTree) (there : disk.IsThere (place ++ [name])) :
    disk.step (.inside place) name = .ok (.inside (place ++ [name])) := by
  obtain ⟨⟨some, noDot, noUp, -⟩, short⟩ := tree.named_of_isThere there name (by simp)
  have directory : disk.isDirectory place = true := tree.isDirectory_of_append there (by simp)
  have found : (disk.isDirectory (place ++ [name]) || disk.isFile (place ++ [name])) = true := by
    rwa [Bool.or_eq_true]
  rw [step_entry directory ⟨some, noDot⟩ noUp short, if_pos found]

theorem follow (tree : disk.IsTree) (there : disk.IsThere (place ++ names)) :
    disk.follow (.inside place) names = .ok (.inside (place ++ names)) := by
  induction names generalizing place with
  | nil => rw [List.append_nil]; rfl
  | cons name rest ih =>
      have behind : place ++ name :: rest = place ++ [name] ++ rest := by simp
      rw [Disk.follow, tree.step (tree.isThere_of_append (behind ▸ there))]
      dsimp only
      rw [ih (behind ▸ there), behind]

/-! ## Spelled paths -/

theorem start_eq (tree : disk.IsTree) (spells : Spells path names) :
    disk.start path = .inside [] :=
  start_of_relative tree.working spells.isAbsolute_eq_false

theorem locate_eq (tree : disk.IsTree) (spells : Spells path names) (there : disk.IsThere names) :
    disk.locate path = .ok (.inside names) := by
  have some : path.isEmpty = false := by simp [spells.ne_nil]
  rw [locate, some, if_neg Bool.false_ne_true, tree.start_eq spells]
  rcases spells.pieces with pieces | pieces
  · rw [pieces, tree.follow (by rwa [List.nil_append]), List.nil_append]
  · have stays : disk.step (.inside []) ['.'] = .ok (.inside []) := rfl
    rw [pieces, Disk.follow, stays]
    dsimp only
    rw [tree.follow (by rwa [List.nil_append]), List.nil_append]

theorem find_eq (tree : disk.IsTree) (spells : Spells path names) (there : disk.IsThere names) :
    disk.find path = .ok (.inside names) := by
  have kept : Disk.names path = names := by
    have all : names.filter (fun name => !name.isEmpty && name ≠ ['.']) = names :=
      List.filter_eq_self.mpr fun name member => by
        obtain ⟨some, noDot, -⟩ := spells.areNames name member
        simp [some, noDot]
    rcases spells.pieces with pieces | pieces
    · rwa [Disk.names, pieces]
    · rwa [Disk.names, pieces, List.filter_cons_of_neg (by decide)]
  rw [Disk.find, tree.start_eq spells, kept, tree.follow (by rwa [List.nil_append]),
    List.nil_append]

/-! ## Reading -/

theorem list_eq (tree : disk.IsTree) (spells : Spells path names) (passes : refusal? path = none)
    (directory : disk.isDirectory names = true) :
    disk.list path = .ok ((disk.entryNames names).map (join path)) := by
  have some : path.isEmpty = false := by simp [spells.ne_nil]
  simp only [Disk.list, passes, some, Bool.false_eq_true, ↓reduceIte,
    tree.locate_eq spells (.inl directory), directory]

theorem stat_eq (tree : disk.IsTree) (spells : Spells path names) (passes : refusal? path = none)
    (there : disk.IsThere names) :
    disk.stat path =
      .ok { isDirectory := disk.isDirectory names, isFile := disk.isFile names } := by
  rw [Disk.stat, passes, tree.locate_eq spells there]

theorem read_eq (tree : disk.IsTree) (spells : Spells path names) (passes : refusal? path = none)
    {bytes : Bytes} (held : disk.file? names = some bytes) : disk.read path = decode bytes := by
  have file : disk.isFile names = true := by rw [isFile, held]; rfl
  rw [Disk.read, refusal?_tidy spells.isAbsolute_eq_false passes, readBytes,
    tree.find_eq spells (.inr file)]
  dsimp only
  rw [held]

theorem mem_entryNames_iff : name ∈ disk.entryNames place ↔ disk.IsThere (place ++ [name]) := by
  have shape : ∀ other : Place, (if other ≠ [] ∧ other.dropLast = place then other.getLast?
      else none) = some name ↔ other = place ++ [name] := by
    intro other
    constructor
    · intro last
      split at last
      · next inside => rw [← inside.2, List.dropLast_append_getLast? name last]
      · cases last
    · rintro rfl
      simp
  rw [entryNames, Text.mem_sortedDistinct, List.mem_filterMap, isThere_iff]
  simp [shape, places]

/-- Directories are not nested deeper than there are directories. -/
theorem length_le_depth (tree : disk.IsTree) (directory : disk.isDirectory place = true) :
    place.length ≤ disk.depth := by
  have different : ((List.range place.length).map fun number => place.take (number + 1)).Nodup := by
    refine List.nodup_range.map_on fun number isNumber other isOther same => ?_
    have lengths := congrArg List.length same
    rw [List.mem_range] at isNumber isOther
    rw [List.length_take, List.length_take] at lengths
    omega
  have listed : ((List.range place.length).map fun number => place.take (number + 1)) ⊆
      disk.directories := by
    intro other member
    obtain ⟨number, isNumber, rfl⟩ := List.mem_map.mp member
    rw [List.mem_range] at isNumber
    have some : place.take (number + 1) ≠ [] := by
      rw [← List.length_pos_iff, List.length_take]
      omega
    have isDirectory : disk.isDirectory (place.take (number + 1)) = true := by
      by_cases all : place.drop (number + 1) = []
      · have whole := List.take_append_drop (number + 1) place
        rw [all, List.append_nil] at whole
        rwa [whole]
      · exact tree.isDirectory_of_append
          (.inl ((List.take_append_drop (number + 1) place).symm ▸ directory)) all
    exact (isDirectory_iff.mp isDirectory).resolve_left some
  have fits := (different.subperm listed).length_le
  rwa [List.length_map, List.length_range] at fits

end IsTree

end Companion.Disk
