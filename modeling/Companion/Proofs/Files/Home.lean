import Companion.Proofs.Files.Walk
import Companion.Proofs.Path.Home

/-!
# Files under another directory

All files put under one directory, their new home. Reading and writing under the home come to the
same as before, as long as paths stay inside the directory that they started from, and a walk from a
directory finds the same files in the same order.
-/

set_option autoImplicit false

namespace Companion

namespace Path

/-- The path leads to a place inside the working directory, or to this directory itself. -/
def IsInside (path : Text) : Prop := ∃ names, LeadsTo path false names

/-- Inside a directory two paths have the same normal form just if they lead to the same place. -/
theorem normalize_eq_iff {path other : Text} {names others : List Text}
    (leads : LeadsTo path false names) (leadsOther : LeadsTo other false others) :
    Path.normalize path = Path.normalize other ↔ names = others := by
  constructor
  · intro same
    have steps := leads.normalize.components
    rw [same, leadsOther.normalize.components] at steps
    exact steps.symm
  · intro same
    subst same
    by_cases none : names = []
    · subst none
      rw [leads.normalize_eq_of_nil, leadsOther.normalize_eq_of_nil]
    · rw [leads.normalize_eq none, leadsOther.normalize_eq none]

theorem IsRelativePlain.isInside {path : Text} (plain : IsRelativePlain path) : IsInside path := by
  obtain ⟨names, -, areNames, rfl⟩ := isRelativePlain_iff.mp plain
  exact ⟨names, leadsTo_ofNames false areNames⟩

/-- The path of a file in some directory: names only, at least two of them. -/
def IsNested (path : Text) : Prop := ∃ directories file, directories ≠ [] ∧
  (∀ name ∈ directories ++ [file], IsName name) ∧ path = ofNames false (directories ++ [file])

theorem IsNested.isInside {path : Text} (nested : IsNested path) : IsInside path := by
  obtain ⟨directories, file, -, areNames, rfl⟩ := nested
  exact ⟨directories ++ [file], leadsTo_ofNames false areNames⟩

end Path

namespace MemoryFiles

open Companion.Path

/-- The files with all of their paths put behind a home. -/
def under (home : Text) (files : MemoryFiles) : MemoryFiles :=
  ⟨files.entries.map fun entry => (normalize (join home entry.1), entry.2)⟩

/-- All files are kept inside the working directory. -/
def IsInside (files : MemoryFiles) : Prop :=
  ∀ key ∈ files.keys, normalize key = key ∧ Path.IsInside key

/-! ## Entries under other keys -/

section Keys

variable {move : Text → Text} {key text : Text} {entries : List (Text × Text)}

theorem lookup_map_keys (apart : ∀ other ∈ entries.map (·.1), move other = move key → other = key) :
    (entries.map fun entry => (move entry.1, entry.2)).lookup (move key) = entries.lookup key := by
  induction entries with
  | nil => rfl
  | cons entry rest ih =>
      obtain ⟨other, held⟩ := entry
      have others := ih fun later member => apart later (List.mem_cons_of_mem _ member)
      by_cases same : key = other
      · simp [same]
      · have moved : move key ≠ move other := fun moved =>
          same (apart other List.mem_cons_self moved.symm).symm
        simp only [List.map_cons, List.lookup_cons, beq_false_of_ne same, beq_false_of_ne moved,
          others]

theorem put_map_keys (apart : ∀ other ∈ entries.map (·.1), move other = move key → other = key) :
    put (move key) text (entries.map fun entry => (move entry.1, entry.2)) =
      (put key text entries).map fun entry => (move entry.1, entry.2) := by
  induction entries with
  | nil => rfl
  | cons entry rest ih =>
      obtain ⟨other, held⟩ := entry
      have others := ih fun later member => apart later (List.mem_cons_of_mem _ member)
      by_cases same : other = key
      · simp [put, same]
      · have moved : move other ≠ move key := fun moved =>
          same (apart other List.mem_cons_self moved)
        rw [List.map_cons, put, put, if_neg same, if_neg moved, List.map_cons, others]

end Keys

variable {home : List Text} {files : MemoryFiles} {path text : Text} {names : List Text}
  (areHome : ∀ name ∈ home, IsName name)

include areHome

/-! ## Reading and writing -/

theorem IsInside.apart (inside : files.IsInside) (leads : LeadsTo path false names) :
    ∀ other ∈ files.keys, normalize (join (ofNames false home) other) =
      normalize (join (ofNames false home) (normalize path)) → other = normalize path := by
  intro other member same
  obtain ⟨normal, others, leadsOther⟩ := inside other member
  have moved := (normalize_eq_iff (leadsTo_join_home areHome leadsOther)
    (leadsTo_join_home areHome leads.normalize)).mp same
  rw [← normal]
  exact (normalize_eq_iff leadsOther leads).mpr (List.append_cancel_left moved)

theorem normalize_join_home (leads : LeadsTo path false names) :
    normalize (join (ofNames false home) path) =
      normalize (join (ofNames false home) (normalize path)) :=
  (normalize_eq_iff (leadsTo_join_home areHome leads)
    (leadsTo_join_home areHome leads.normalize)).mpr rfl

theorem get?_under (inside : files.IsInside) (leads : LeadsTo path false names) :
    (files.under (ofNames false home)).get? (normalize (join (ofNames false home) path)) =
      files.get? (normalize path) := by
  rw [normalize_join_home areHome leads]
  exact lookup_map_keys (inside.apart areHome leads)

theorem read_under (inside : files.IsInside) (leads : LeadsTo path false names) :
    Failure.Alike Eq (files.read path)
      ((files.under (ofNames false home)).read (join (ofNames false home) path)) := by
  unfold read
  rw [get?_under areHome inside leads]
  cases files.get? (normalize path) with
  | none => exact .error _ _
  | some text => exact .ok rfl

theorem read_under_eq_ok (inside : files.IsInside) (leads : LeadsTo path false names)
    (reading : files.read path = .ok text) :
    (files.under (ofNames false home)).read (join (ofNames false home) path) = .ok text := by
  have alike := read_under areHome inside leads
  rw [reading] at alike
  rcases alike.outcomes with ⟨_, _, failed, -⟩ | ⟨_, _, rfl, same, movedReading⟩
  · cases failed
  · rw [movedReading, same]

theorem write_under (inside : files.IsInside) (leads : LeadsTo path false names) :
    (files.under (ofNames false home)).write (join (ofNames false home) path) text =
      (files.write path text).under (ofNames false home) := by
  unfold write under
  rw [normalize_join_home areHome leads]
  exact congrArg MemoryFiles.mk (put_map_keys (inside.apart areHome leads))

omit areHome in
theorem IsInside.writeTexts {texts : List (Text × Text)} (inside : files.IsInside)
    (targets : ∀ target ∈ texts.map (·.1), Path.IsInside target) :
    (files.writeTexts texts).IsInside := by
  intro key member
  rcases mem_keys_writeTexts.mp member with before | ⟨target, isTarget, rfl⟩
  · exact inside key before
  · obtain ⟨names, leads⟩ := targets target isTarget
    exact ⟨(normalize_eq_iff leads.normalize leads).mpr rfl, names, leads.normalize⟩

theorem writeTexts_under {texts : List (Text × Text)} (inside : files.IsInside)
    (targets : ∀ target ∈ texts.map (·.1), Path.IsInside target) :
    (files.under (ofNames false home)).writeTexts
        (texts.map fun file => (join (ofNames false home) file.1, file.2)) =
      (files.writeTexts texts).under (ofNames false home) := by
  induction texts generalizing files with
  | nil => rfl
  | cons file rest ih =>
      obtain ⟨names, leads⟩ := targets file.1 List.mem_cons_self
      have next : (files.write file.1 file.2).IsInside := by
        have one : ∀ target ∈ [file].map (·.1), Path.IsInside target := by
          intro target member
          rw [List.mem_singleton.mp member]
          exact ⟨names, leads⟩
        exact inside.writeTexts one
      have others := ih next fun target member => targets target (List.mem_cons_of_mem _ member)
      rw [← write_under areHome inside leads] at others
      exact others

/-! ## Walks -/

omit areHome in
theorem mem_keys_under {key : Text} : key ∈ (files.under (ofNames false home)).keys ↔
    ∃ other ∈ files.keys, normalize (join (ofNames false home) other) = key := by
  simp [keys, under]

/-- All files are kept below the working directory, under plain paths. -/
def IsRelativePlain (files : MemoryFiles) : Prop := ∀ key ∈ files.keys, Path.IsRelativePlain key

omit areHome in
theorem IsRelativePlain.isPlain (plain : files.IsRelativePlain) : files.IsPlain :=
  fun key member => (plain key member).1

omit areHome in
theorem IsRelativePlain.isInside (plain : files.IsRelativePlain) : files.IsInside :=
  fun key member => ⟨(plain key member).1.normalize_eq, (plain key member).isInside⟩

variable (plain : files.IsRelativePlain)

include plain

/-- Where all paths are plain, each gets the path of the home in front. -/
theorem under_eq (someHome : home ≠ []) : files.under (ofNames false home) =
    ⟨files.entries.map fun entry => (ofNames false home ++ '/' :: entry.1, entry.2)⟩ := by
  unfold under
  rw [MemoryFiles.mk.injEq]
  apply List.map_congr_left
  intro entry member
  obtain ⟨names, some, areNames, isKey⟩ :=
    Path.isRelativePlain_iff.mp (plain entry.1 (List.mem_map_of_mem member))
  have allNames := List.forall_mem_append.mpr ⟨areHome, areNames⟩
  rw [isKey, join_home_ofNames someHome areHome some fun name inside => (areNames name inside).isPart,
    normalize_ofNames (by simp [some]) allNames, ofNames_append someHome some]

theorem isPlain_under : (files.under (ofNames false home)).IsPlain := by
  intro key member
  obtain ⟨other, isOther, rfl⟩ := mem_keys_under.mp member
  obtain ⟨names, some, areNames, rfl⟩ := Path.isRelativePlain_iff.mp (plain other isOther)
  have leads := leadsTo_join_home areHome (leadsTo_ofNames false areNames)
  rw [leads.normalize_eq (by simp [some])]
  exact isPlain_iff.mpr ⟨false, home ++ names, by simp [some], leads.areNames, rfl⟩

theorem holds_under_iff (some : names ≠ []) :
    (files.under (ofNames false home)).Holds false (home ++ names) ↔ files.Holds false names := by
  constructor
  · intro holds
    obtain ⟨areNames, member⟩ := holds
    obtain ⟨other, isOther, same⟩ := mem_keys_under.mp member
    obtain ⟨others, someOther, areOthers, rfl⟩ := Path.isRelativePlain_iff.mp (plain other isOther)
    have leads := leadsTo_join_home areHome (leadsTo_ofNames false areOthers)
    have steps := leads.normalize.components
    rw [same, components_ofNames areNames] at steps
    rw [List.append_cancel_left steps]
    exact ⟨areOthers, isOther⟩
  · intro holds
    obtain ⟨areNames, member⟩ := holds
    have leads := leadsTo_join_home areHome (leadsTo_ofNames false areNames)
    exact ⟨leads.areNames, mem_keys_under.mpr ⟨_, member, leads.normalize_eq (by simp [some])⟩⟩

variable (some : names ≠ [])

include some

theorem isDirectory_under_iff :
    (files.under (ofNames false home)).IsDirectory false (home ++ names) ↔
      files.IsDirectory false names := by
  have below : ∀ name rest, (files.under (ofNames false home)).Holds false
      (home ++ names ++ name :: rest) ↔ files.Holds false (names ++ name :: rest) := by
    intro name rest
    rw [List.append_assoc]
    exact holds_under_iff areHome plain (by simp)
  unfold IsDirectory
  simp only [holds_under_iff areHome plain some, below, List.append_eq_nil_iff, some, and_false]

theorem sees_under_iff {track : List Text} :
    (files.under (ofNames false home)).Sees false (home ++ names) track ↔
      files.Sees false names track := by
  have along : ∀ track, (files.under (ofNames false home)).Holds false (home ++ names ++ track) ↔
      files.Holds false (names ++ track) := by
    intro track
    rw [List.append_assoc]
    exact holds_under_iff areHome plain (by simp [some])
  unfold Sees
  simp only [along]

variable (areNames : ∀ name ∈ names, IsName name) {accepts movedAccepts : Text → Bool}
  (sameAccepted : ∀ path, movedAccepts (join (ofNames false home) path) = accepts path)

include areNames sameAccepted

theorem tracks_under (someHome : home ≠ []) :
    (files.under (ofNames false home)).tracks movedAccepts
        ((files.under (ofNames false home)).depth + 2) (ofNames false (home ++ names)) =
      files.tracks accepts (files.depth + 2) (ofNames false names) := by
  have allNames := List.forall_mem_append.mpr ⟨areHome, areNames⟩
  -- both lists are in lexicographic order, so their members decide
  apply (tracks_ascending _ _).eq_of_mem_iff (tracks_ascending _ _)
  intro track
  rw [mem_tracks_depth_iff (isPlain_under areHome plain) (leadsTo_ofNames false allNames),
    mem_tracks_depth_iff plain.isPlain (leadsTo_ofNames false areNames),
    sees_under_iff areHome plain some]
  refine and_congr_right fun someTrack => and_congr_right fun sees => ?_
  have areTrack : ∀ name ∈ track, IsName name :=
    fun name member => sees.1.1 name (List.mem_append_right _ member)
  rw [enter_ofNames allNames areTrack, enter_ofNames areNames areTrack, List.append_assoc,
    ← join_home_ofNames someHome areHome (by simp [some]) fun part member =>
      (sees.1.1 part member).isPart, sameAccepted]

/-- A walk finds the same files. -/
theorem walk_under (someHome : home ≠ []) :
    Failure.Alike
      (fun paths moved => moved = paths.map (join (ofNames false home)) ∧
        ∀ path ∈ paths, IsNested path)
      (FileStore.walk files accepts (ofNames false names))
      (FileStore.walk (files.under (ofNames false home)) movedAccepts
        (ofNames false (home ++ names))) := by
  have allNames := List.forall_mem_append.mpr ⟨areHome, areNames⟩
  have leads : LeadsTo (ofNames false names) false names := leadsTo_ofNames false areNames
  rcases walk_eq accepts plain.isPlain leads with ⟨directory, walked⟩ | ⟨other, failed⟩
  · rcases walk_eq movedAccepts (isPlain_under areHome plain) (leadsTo_ofNames false allNames) with
      ⟨-, movedWalked⟩ | ⟨movedOther, -⟩
    · rw [walked, movedWalked, tracks_under areHome plain some areNames sameAccepted someHome]
      have found : ∀ track ∈ files.tracks accepts (files.depth + 2) (ofNames false names),
          track ≠ [] ∧ (∀ name ∈ names ++ track, IsName name) := by
        intro track member
        obtain ⟨someTrack, sees, -⟩ := (mem_tracks_depth_iff plain.isPlain leads).mp member
        exact ⟨someTrack, sees.1.1⟩
      refine .ok ⟨?_, ?_⟩
      · rw [List.map_map]
        apply List.map_congr_left
        intro track member
        have areTrack := (List.forall_mem_append.mp (found track member).2).2
        rw [Function.comp_apply, enter_ofNames allNames areTrack, enter_ofNames areNames areTrack,
          List.append_assoc, join_home_ofNames someHome areHome (by simp [some]) fun part inside =>
            ((found track member).2 part inside).isPart]
      · intro path member
        obtain ⟨track, isTrack, rfl⟩ := List.mem_map.mp member
        obtain ⟨someTrack, areAll⟩ := found track isTrack
        obtain ⟨front, file, rfl⟩ := (List.eq_nil_or_concat track).resolve_left someTrack
        rw [List.concat_eq_append, ← List.append_assoc] at areAll
        refine ⟨names ++ front, file, by simp [some], areAll, ?_⟩
        rw [enter_ofNames areNames fun name inside => (found _ isTrack).2 name
          (List.mem_append_right _ inside), List.concat_eq_append, List.append_assoc]
    · exact absurd ((isDirectory_under_iff areHome plain some).mpr directory) movedOther
  · rcases walk_eq movedAccepts (isPlain_under areHome plain) (leadsTo_ofNames false allNames) with
      ⟨movedDirectory, -⟩ | ⟨-, movedFailed⟩
    · exact absurd ((isDirectory_under_iff areHome plain some).mp movedDirectory) other
    · rw [failed, movedFailed]
      exact .error _ _

end MemoryFiles

end Companion
