import Companion.Output.FileSet
import Companion.Proofs.Text.Distinct
import Mathlib.Data.List.Induction

/-! Accumulating fragments file by file. The accumulated files depend on the sequence of fragments
only: the paths are in the order of their first fragments, and each file holds what its own fragments
hold, in their order. -/

set_option autoImplicit false

namespace Companion

@[ext] theorem Artifact.ext {left right : Artifact} (imports : left.imports = right.imports)
    (statements : left.statements = right.statements) : left = right := by
  cases left
  cases right
  simp_all

namespace FileSet

/-- A fragment and the path of the file that it goes into. -/
abbrev Placement := Text × Artifact

/-- The fragments that go into the file at a path, in order. -/
def fragmentsAt (path : Text) (placements : List Placement) : List Artifact :=
  (placements.filter (·.1 = path)).map (·.2)

/-- What fragments amount to when they are put behind each other. -/
def gather (fragments : List Artifact) : Artifact where
  imports := Text.distinct (fragments.flatMap (·.imports))
  statements := fragments.flatMap (·.statements)

/-- The files that a sequence of fragments amounts to. -/
def ofPlacements (placements : List Placement) : FileSet where
  entries := (Text.distinct (placements.map (·.1))).map fun path =>
    (path, gather (fragmentsAt path placements))

theorem fragmentsAt_append (path : Text) (left right : List Placement) :
    fragmentsAt path (left ++ right) = fragmentsAt path left ++ fragmentsAt path right := by
  simp [fragmentsAt]

theorem fragmentsAt_eq_nil {path : Text} {placements : List Placement}
    (absent : path ∉ placements.map (·.1)) : fragmentsAt path placements = [] := by
  simp only [fragmentsAt, List.map_eq_nil_iff, List.filter_eq_nil_iff, decide_eq_true_eq]
  intro placement member same
  exact absent (List.mem_map.mpr ⟨placement, member, same⟩)

theorem gather_append_singleton (fragments : List Artifact) (fragment : Artifact) :
    gather (fragments ++ [fragment]) = (gather fragments).merge fragment := by
  apply Artifact.ext
  · simp [gather, Artifact.merge, Text.distinct_distinct_append]
  · simp [gather, Artifact.merge]

theorem concat_eq_gather (fragments : List Artifact) :
    Artifact.concat fragments = gather fragments := by
  induction fragments using List.reverseRecOn with
  | nil => rfl
  | append_singleton rest fragment ih =>
      rw [gather_append_singleton, ← ih, Artifact.concat, List.foldl_append]
      rfl

/-- Adding to a file that is there changes this file only. -/
private theorem addTo_map_of_mem {path : Text} (fragment : Artifact) (held : Text → Artifact)
    {paths : List Text} (unique : paths.Nodup) (present : path ∈ paths) :
    addTo path fragment (paths.map fun other => (other, held other)) =
      paths.map fun other =>
        (other, if other = path then (held other).merge fragment else held other) := by
  induction paths with
  | nil => simp at present
  | cons first rest ih =>
      obtain ⟨fresh, unique⟩ := List.nodup_cons.mp unique
      by_cases same : first = path
      · have others : ∀ other ∈ rest, other ≠ path := by
          intro other member equal
          exact fresh (same ▸ equal ▸ member)
        simp only [List.map_cons, addTo, same, ↓reduceIte, List.cons.injEq, true_and]
        apply List.map_congr_left
        intro other member
        rw [if_neg (others other member)]
      · have inRest : path ∈ rest := by
          rcases List.mem_cons.mp present with equal | member
          · exact absurd equal.symm same
          · exact member
        simp only [List.map_cons, addTo, same, ↓reduceIte, ih unique inRest]

private theorem addTo_map_of_not_mem {path : Text} (fragment : Artifact) (held : Text → Artifact)
    {paths : List Text} (absent : path ∉ paths) :
    addTo path fragment (paths.map fun other => (other, held other)) =
      (paths.map fun other => (other, held other)) ++ [(path, Artifact.empty.merge fragment)] := by
  induction paths with
  | nil => rfl
  | cons first rest ih =>
      obtain ⟨different, absent⟩ := not_or.mp (List.mem_cons.not.mp absent)
      simp only [List.map_cons, addTo, Ne.symm different, ↓reduceIte, ih absent, List.cons_append]

/-- One more fragment: the step of every run that collects fragments. -/
theorem add_ofPlacements (placements : List Placement) (placement : Placement) :
    (ofPlacements placements).add placement.1 placement.2 =
      ofPlacements (placements ++ [placement]) := by
  obtain ⟨path, fragment⟩ := placement
  have gathered : ∀ other, gather (fragmentsAt other (placements ++ [(path, fragment)])) =
      if other = path then (gather (fragmentsAt other placements)).merge fragment
      else gather (fragmentsAt other placements) := by
    intro other
    rw [fragmentsAt_append]
    by_cases same : other = path
    · simp [fragmentsAt, same, gather_append_singleton]
    · simp [fragmentsAt, same, Ne.symm same]
  simp only [add, ofPlacements, FileSet.mk.injEq, List.map_append, List.map_cons, List.map_nil,
    gathered, Text.distinct_append_singleton]
  by_cases present : path ∈ placements.map (·.1)
  · rw [if_pos present]
    exact addTo_map_of_mem fragment _ (Text.nodup_distinct _) (Text.mem_distinct.mpr present)
  · have fresh : path ∉ Text.distinct (placements.map (·.1)) :=
      fun member => present (Text.mem_distinct.mp member)
    rw [if_neg present, addTo_map_of_not_mem fragment _ fresh, List.map_append]
    congr 1
    · apply List.map_congr_left
      intro other member
      have different : other ≠ path := fun same => fresh (same ▸ member)
      rw [if_neg different]
    · simp [fragmentsAt_eq_nil present, gather, Artifact.empty]

/-- A whole run: whatever is collected one by one is what all fragments together amount to. -/
theorem foldl_add (placements : List Placement) :
    placements.foldl (fun files placement => files.add placement.1 placement.2) {} =
      ofPlacements placements := by
  induction placements using List.reverseRecOn with
  | nil => rfl
  | append_singleton placements placement ih =>
      rw [List.foldl_append, ih]
      exact add_ofPlacements placements placement

theorem paths_ofPlacements (placements : List Placement) :
    (ofPlacements placements).paths = Text.distinct (placements.map (·.1)) := by
  simp [paths, ofPlacements, Function.comp_def]

theorem eq_or_mem_of_mem_paths_add {files : FileSet} {path other : Text} {fragment : Artifact}
    (member : other ∈ (files.add path fragment).paths) : other = path ∨ other ∈ files.paths := by
  obtain ⟨entries⟩ := files
  unfold add paths at *
  dsimp only at member ⊢
  induction entries with
  | nil => exact .inl (List.mem_singleton.mp member)
  | cons entry rest ih =>
      obtain ⟨held, artifact⟩ := entry
      rw [addTo] at member
      split at member
      · exact .inr member
      · rcases List.mem_cons.mp member with same | inRest
        · exact .inr (List.mem_cons.mpr (.inl same))
        · exact (ih inRest).imp id fun before => List.mem_cons_of_mem _ before

/-- The same artifacts under other paths. -/
def mapPaths (move : Text → Text) (files : FileSet) : FileSet :=
  ⟨files.entries.map fun entry => (move entry.1, entry.2)⟩

theorem add_mapPaths {move : Text → Text} (injective : Function.Injective move) (files : FileSet)
    (path : Text) (fragment : Artifact) :
    (files.mapPaths move).add (move path) fragment = (files.add path fragment).mapPaths move := by
  obtain ⟨entries⟩ := files
  unfold add mapPaths
  rw [FileSet.mk.injEq]
  dsimp only
  induction entries with
  | nil => rfl
  | cons entry rest ih =>
      obtain ⟨other, artifact⟩ := entry
      by_cases same : other = path
      · simp [addTo, same]
      · simp [addTo, same, injective.ne same, ih]

theorem mem_entries_ofPlacements {placements : List Placement} {entry : Text × Artifact}
    (member : entry ∈ (ofPlacements placements).entries) :
    entry.2 = gather (fragmentsAt entry.1 placements) := by
  obtain ⟨path, _, rfl⟩ := List.mem_map.mp member
  rfl

end FileSet

end Companion
