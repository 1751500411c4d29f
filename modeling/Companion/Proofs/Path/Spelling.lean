import Companion.Proofs.Path.Place

/-!
# Spelled paths

Paths that name every step down and take none twice: names between single slashes, perhaps behind a
dot. Such a path may be followed slash by slash, and a name continues it to another one.
-/

set_option autoImplicit false

namespace Companion.Path

/-- The path spells out some names, from the working directory. -/
structure Spells (path : Text) (names : List Text) : Prop where
  pieces : Text.splitOn '/' path = names ∨ Text.splitOn '/' path = ['.'] :: names
  areNames : ∀ name ∈ names, IsName name

namespace Spells

variable {path : Text} {names : List Text}

theorem isPart (spells : Spells path names) : ∀ piece ∈ Text.splitOn '/' path, IsPart piece := by
  have areParts : ∀ piece ∈ names, IsPart piece := fun piece member =>
    (spells.areNames piece member).isPart
  rcases spells.pieces with pieces | pieces
  · rwa [pieces]
  · rw [pieces]
    exact List.forall_mem_cons.mpr ⟨by unfold IsPart; decide, areParts⟩

theorem ne_nil (spells : Spells path names) : path ≠ [] := by
  rintro rfl
  exact (spells.isPart [] List.mem_cons_self).1 rfl

theorem isAbsolute_eq_false (spells : Spells path names) : isAbsolute path = false := by
  cases path with
  | nil => rfl
  | cons c rest =>
      have different : c ≠ '/' := by
        rintro rfl
        have empty : [] ∈ Text.splitOn '/' ('/' :: rest) := by
          rw [Text.splitOn_cons_separator]
          exact List.mem_cons_self
        exact (spells.isPart [] empty).1 rfl
      simp [isAbsolute, different]

/-- The path does not end in a slash. -/
theorem getLast?_ne (spells : Spells path names) : path.getLast? ≠ some '/' := by
  intro ends
  obtain ⟨front, rfl⟩ := List.getLast?_eq_some_iff.mp ends
  have empty : [] ∈ Text.splitOn '/' (front ++ ['/']) := by
    rw [Text.splitOn_append_separator]
    exact List.mem_append_right _ List.mem_cons_self
  exact (spells.isPart [] empty).1 rfl

theorem leadsTo (spells : Spells path names) : LeadsTo path false names where
  opens := rootSlashes_of_relative spells.isAbsolute_eq_false
  components := by
    have stacked : (Text.splitOn '/' path).foldl (push (isAbsolute path)) [] = names.reverse := by
      rcases spells.pieces with pieces | pieces <;>
        simp [pieces, foldl_push_names spells.areNames]
    rw [components, stacked, List.reverse_reverse]
  areNames := spells.areNames

theorem join (spells : Spells path names) {name : Text} (isName : IsName name) :
    Spells (join path name) (names ++ [name]) where
  pieces := by
    rw [join_of_relative (isAbsolute_of_not_mem isName.2.2.2),
      if_neg (not_or.mpr ⟨spells.ne_nil, spells.getLast?_ne⟩), Text.splitOn_append_separator,
      Text.splitOn_eq_singleton isName.2.2.2]
    rcases spells.pieces with pieces | pieces <;> simp [pieces]
  areNames := areNames_concat spells.areNames isName

theorem enter (spells : Spells path names) {others : List Text}
    (areNames : ∀ name ∈ others, IsName name) : Spells (enter path others) (names ++ others) := by
  induction others generalizing path names with
  | nil => simpa using spells
  | cons name rest ih =>
      have next := ih (spells.join (areNames name List.mem_cons_self))
        fun other member => areNames other (List.mem_cons_of_mem _ member)
      rwa [List.append_assoc] at next

end Spells

end Companion.Path
