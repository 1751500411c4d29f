import Companion.Proofs.Failure
import Companion.Proofs.Files.Tree

/-!
# Walks through files in memory

A walk from a directory finds exactly the accepted files that no other file on the way hides, each of
them once and in the lexicographic order of the names on the way. Directories are not nested deeper
than the longest path is long, so that the bound on the depth is never met.
-/

set_option autoImplicit false

namespace Companion.MemoryFiles

open Companion.Path

/-- The ways that start with one entry of a directory, given the ways from this entry on. -/
def through (files : MemoryFiles) (accepts : Text → Bool) (path name : Text)
    (further : List (List Text)) : List (List Text) :=
  if files.contains (join path name) then
    if accepts (join path name) then [[name]] else []
  else further.map (name :: ·)

/-- The ways from a directory to the accepted files below it, depth first; `fuel` bounds the depth. -/
def tracks (files : MemoryFiles) (accepts : Text → Bool) : Nat → Text → List (List Text)
  | 0, _ => []
  | fuel + 1, path => (files.names (normalize path)).flatMap fun name =>
    files.through accepts path name (tracks files accepts fuel (join path name))

/-- A way from a directory leads to a file and does not pass through another file. -/
def Sees (files : MemoryFiles) (rooted : Bool) (names track : List Text) : Prop :=
  files.Holds rooted (names ++ track) ∧
    ∀ first last, track = first ++ last → first ≠ [] → last ≠ [] →
      ¬ files.Holds rooted (names ++ first)

variable {files : MemoryFiles} {accepts : Text → Bool} {path : Text} {rooted : Bool}
  {names : List Text}

/-- The first name of a way leads to the file itself or to a directory that sees the file. -/
theorem sees_cons_iff {name : Text} {rest : List Text} :
    files.Sees rooted names (name :: rest) ↔
      if rest = [] then files.Holds rooted (names ++ [name])
      else ¬ files.Holds rooted (names ++ [name]) ∧ files.Sees rooted (names ++ [name]) rest := by
  split
  · next none =>
    subst none
    constructor
    · exact fun sees => sees.1
    · intro holds
      refine ⟨holds, fun first last shape someFirst someLast => ?_⟩
      have lengths := congrArg List.length shape
      have firstLength := List.length_pos_iff.mpr someFirst
      have lastLength := List.length_pos_iff.mpr someLast
      simp only [List.length_cons, List.length_nil, List.length_append] at lengths
      omega
  · next more =>
    have behind : ∀ {others : List Text}, names ++ name :: others = names ++ [name] ++ others := by
      simp
    constructor
    · rintro ⟨holds, free⟩
      refine ⟨free [name] rest rfl (by simp) more, behind ▸ holds, ?_⟩
      intro first last shape _ someLast
      rw [← behind]
      exact free (name :: first) last (by rw [shape, List.cons_append]) (by simp) someLast
    · rintro ⟨noFile, holds, free⟩
      refine ⟨behind ▸ holds, fun first last shape someFirst someLast => ?_⟩
      obtain ⟨c, others, rfl⟩ := List.exists_cons_of_ne_nil someFirst
      obtain ⟨rfl, otherShape⟩ := List.cons_eq_cons.mp shape
      by_cases none : others = []
      · rwa [none]
      · rw [behind]
        exact free others last otherShape none someLast

theorem Sees.leadsTo {track : List Text} (sees : files.Sees rooted names track)
    (leads : LeadsTo path rooted names) : LeadsTo (enter path track) rooted (names ++ track) :=
  leads.enter fun name member => sees.1.1 name (List.mem_append_right _ member)

theorem mem_through_iff {name : Text} {further : List (List Text)} {track : List Text} :
    track ∈ files.through accepts path name further ↔
      ∃ rest, track = name :: rest ∧
        if files.contains (join path name) = true then
          rest = [] ∧ accepts (join path name) = true
        else rest ∈ further := by
  rw [through]
  split
  · split
    · next accepted => simp [accepted]
    · next rejected => simp [rejected]
  · simp [eq_comm, and_comm]

/-- What a walk finds. -/
theorem mem_tracks_iff (plain : files.IsPlain) (leads : LeadsTo path rooted names) {fuel : Nat}
    {track : List Text} :
    track ∈ files.tracks accepts fuel path ↔
      track ≠ [] ∧ track.length ≤ fuel ∧ files.Sees rooted names track ∧
        accepts (enter path track) = true := by
  induction fuel generalizing path names track with
  | zero => cases track <;> simp [tracks]
  | succ fuel ih =>
      simp only [tracks, List.mem_flatMap, mem_names_iff plain leads, mem_through_iff]
      constructor
      · rintro ⟨name, ⟨more, holds⟩, rest, rfl, found⟩
        have next := leads.join (holds.1 name (by simp))
        have there := contains_iff plain next
        split at found
        · next here =>
          obtain ⟨rfl, accepted⟩ := found
          refine ⟨by simp, by simp, sees_cons_iff.mpr ?_, accepted⟩
          rw [if_pos rfl]
          exact there.mp here
        · next absent =>
          obtain ⟨someRest, short, sees, accepted⟩ := (ih next).mp found
          refine ⟨by simp, Nat.succ_le_succ short, sees_cons_iff.mpr ?_, accepted⟩
          rw [if_neg someRest]
          exact ⟨fun holds => absent (there.mpr holds), sees⟩
      · rintro ⟨someTrack, short, sees, accepted⟩
        obtain ⟨name, rest, rfl⟩ := List.exists_cons_of_ne_nil someTrack
        have next := leads.join (sees.1.1 name (by simp))
        have step := sees_cons_iff.mp sees
        have there := contains_iff plain next
        refine ⟨name, ⟨rest, sees.1⟩, rest, rfl, ?_⟩
        by_cases none : rest = []
        · subst none
          rw [if_pos rfl] at step
          rw [if_pos (there.mpr step)]
          exact ⟨rfl, accepted⟩
        · rw [if_neg none] at step
          rw [if_neg fun here => step.1 (there.mp here)]
          exact (ih next).mpr ⟨none, Nat.le_of_succ_le_succ short, step.2, accepted⟩

/-- The files are found in the lexicographic order of the names on the way. -/
theorem tracks_ascending (fuel : Nat) (path : Text) :
    (files.tracks accepts fuel path).Pairwise (· < ·) := by
  induction fuel generalizing path with
  | zero => exact List.Pairwise.nil
  | succ fuel ih =>
      rw [tracks, List.pairwise_flatMap]
      constructor
      · intro name _
        rw [through]
        split
        · split
          · exact List.pairwise_singleton _ _
          · exact List.Pairwise.nil
        · exact List.pairwise_map.mpr ((ih (join path name)).imp fun less =>
            List.cons_lt_cons_iff.mpr (.inr ⟨rfl, less⟩))
      · refine (Text.ascending_sortedDistinct _).imp fun less track isTrack other isOther => ?_
        obtain ⟨rest, rfl, -⟩ := mem_through_iff.mp isTrack
        obtain ⟨others, rfl, -⟩ := mem_through_iff.mp isOther
        exact List.cons_lt_cons_iff.mpr (.inl less)

/-! ## Depth -/

theorem length_le_length_ofNames (someText : ∀ name ∈ names, name ≠ []) :
    names.length ≤ (ofNames rooted names).length := by
  have joined : names.length ≤ (Text.join ['/'] names).length := by
    induction names with
    | nil => exact Nat.zero_le _
    | cons name rest ih =>
        have first := List.length_pos_iff.mpr (someText name List.mem_cons_self)
        have others := ih fun other member => someText other (List.mem_cons_of_mem _ member)
        cases rest with
        | nil => exact first
        | cons next more =>
            rw [Text.join_cons_cons, List.length_append, List.length_append]
            simp only [List.length_cons, List.length_nil] at others ⊢
            omega
  rw [ofNames, List.length_append]
  omega

theorem length_le_depth {key : Text} (member : key ∈ files.keys) : key.length ≤ files.depth := by
  have reached : ∀ (keys : List Text) (most : Nat),
      most ≤ keys.foldl (fun most key => max most key.length) most ∧
        ∀ key ∈ keys, key.length ≤ keys.foldl (fun most key => max most key.length) most := by
    intro keys
    induction keys with
    | nil => exact fun most => ⟨Nat.le_refl _, by simp⟩
    | cons first rest ih =>
        intro most
        obtain ⟨grows, others⟩ := ih (max most first.length)
        refine ⟨Nat.le_trans (Nat.le_max_left _ _) grows, fun key isKey => ?_⟩
        rcases List.mem_cons.mp isKey with rfl | isKey
        · exact Nat.le_trans (Nat.le_max_right _ _) grows
        · exact others key isKey
  exact (reached files.keys 0).2 key member

theorem Holds.length_le_depth (holds : files.Holds rooted names) : names.length ≤ files.depth :=
  Nat.le_trans (length_le_length_ofNames fun name member => (holds.1 name member).1)
    (MemoryFiles.length_le_depth holds.2)

/-! ## Walks -/

/-- What a walk does with an entry. -/
def visit (files : MemoryFiles) (accepts : Text → Bool) (fuel : Nat) (path : Text) :
    Except Failure (List Text) := do
  let stat ← files.stat path
  if stat.isDirectory then FileStore.walkWithin files accepts fuel path
  else if stat.isFile && accepts path then pure [path]
  else pure []

theorem walkWithin_succ (fuel : Nat) :
    FileStore.walkWithin files accepts (fuel + 1) path =
      files.list path >>= fun entries =>
        entries.mapM (files.visit accepts fuel) >>= fun found => pure found.flatten := rfl

/-- A walk from a directory ends with what it finds when its bound reaches to the deepest file. -/
theorem walkWithin_eq (plain : files.IsPlain) {fuel : Nat} (leads : LeadsTo path rooted names)
    (directory : files.IsDirectory rooted names) (deep : files.depth + 2 ≤ fuel + names.length) :
    FileStore.walkWithin files accepts fuel path =
      .ok ((files.tracks accepts fuel path).map (enter path)) := by
  induction fuel generalizing path names with
  | zero =>
      -- the bound would have been met below the deepest file
      rcases directory.2 with ⟨-, rfl⟩ | ⟨name, rest, holds⟩
      · simp at deep
      · have within := holds.length_le_depth
        rw [List.length_append, List.length_cons] at within
        omega
  | succ fuel ih =>
      have listed : files.list path = .ok ((files.names (normalize path)).map (join path)) := by
        rcases list_eq plain leads with ⟨-, listed⟩ | ⟨other, -⟩
        · exact listed
        · exact absurd directory other
      have each : ∀ name ∈ files.names (normalize path),
          files.visit accepts fuel (join path name) =
            .ok ((files.through accepts path name
              (files.tracks accepts fuel (join path name))).map (enter path)) := by
        intro name member
        obtain ⟨rest, holds⟩ := (mem_names_iff plain leads).mp member
        have next := leads.join (holds.1 name (by simp))
        by_cases here : files.Holds rooted (names ++ [name])
        · rw [visit, stat_of_holds plain next here, through,
            if_pos ((contains_iff plain next).mpr here)]
          by_cases accepted : accepts (join path name) = true <;>
            simp [accepted, bind, Except.bind, pure, Except.pure]
        · have nextDirectory : files.IsDirectory rooted (names ++ [name]) := by
            refine ⟨here, .inr ?_⟩
            cases rest with
            | nil => exact absurd holds here
            | cons second more => exact ⟨second, more, by simpa using holds⟩
          have nextDeep : files.depth + 2 ≤ fuel + (names ++ [name]).length := by
            rw [List.length_append, List.length_singleton]
            omega
          rw [visit, stat_of_isDirectory plain next nextDirectory, through,
            if_neg fun there => here ((contains_iff plain next).mp there), List.map_map]
          exact ih next nextDirectory nextDeep
      rw [walkWithin_succ, listed, Failure.bind_eq_ok_iff]
      refine ⟨_, rfl, ?_⟩
      rw [List.mapM_map, Function.comp_def, Failure.mapM_eq_ok_map each, tracks, List.map_flatMap,
        List.flatMap_def]
      rfl

/-- A walk from a path that leads to no directory fails, any other one ends. -/
theorem walk_eq (accepts : Text → Bool) (plain : files.IsPlain)
    (leads : LeadsTo path rooted names) :
    (files.IsDirectory rooted names ∧ FileStore.walk files accepts path =
        .ok ((files.tracks accepts (files.depth + 2) path).map (enter path))) ∨
      (¬ files.IsDirectory rooted names ∧
        FileStore.walk files accepts path = .error (.fileNotFound path)) := by
  by_cases directory : files.IsDirectory rooted names
  · exact .inl ⟨directory, walkWithin_eq plain leads directory (Nat.le_add_right _ _)⟩
  · rcases list_eq plain leads with ⟨isDirectory, -⟩ | ⟨-, listed⟩
    · exact absurd isDirectory directory
    · refine .inr ⟨directory, ?_⟩
      change FileStore.walkWithin files accepts (files.depth + 1 + 1) path = _
      rw [walkWithin_succ, listed]
      rfl

theorem mem_tracks_depth_iff (plain : files.IsPlain) (leads : LeadsTo path rooted names)
    {track : List Text} :
    track ∈ files.tracks accepts (files.depth + 2) path ↔
      track ≠ [] ∧ files.Sees rooted names track ∧ accepts (enter path track) = true := by
  rw [mem_tracks_iff plain leads]
  constructor
  · rintro ⟨some, -, sees, accepted⟩
    exact ⟨some, sees, accepted⟩
  · rintro ⟨some, sees, accepted⟩
    have within := sees.1.length_le_depth
    rw [List.length_append] at within
    exact ⟨some, by omega, sees, accepted⟩

end Companion.MemoryFiles
