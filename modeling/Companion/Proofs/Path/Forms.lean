import Companion.Proofs.Path.Plain

/-!
# Normal forms of all paths

Every path has a normal form made of the slashes that open it and of its components, steps up
included. The normal form has the same slashes and components, so it is its own normal form, and
where one normal form goes on behind another one its components do.
-/

set_option autoImplicit false

namespace Companion.Path

variable {path : Text}

/-! ## Slashes that open a path -/

theorem rootSlashes_cases (path : Text) :
    (isAbsolute path = false ∧ rootSlashes path = []) ∨
      (isAbsolute path = true ∧ (rootSlashes path = ['/'] ∨ rootSlashes path = ['/', '/'])) := by
  cases absolute : isAbsolute path with
  | false => exact .inl ⟨rfl, rootSlashes_of_relative absolute⟩
  | true =>
      refine .inr ⟨rfl, ?_⟩
      unfold rootSlashes
      split
      · exact .inr rfl
      · split
        · exact .inl rfl
        · exact .inr rfl
      · exact .inl rfl
      · next other =>
        cases path with
        | nil => cases absolute
        | cons c rest =>
            have slash : c = '/' := by simpa [isAbsolute] using absolute
            exact absurd (slash ▸ rfl) (other rest)

/-- The slashes that open a path tell whether it starts at the root. -/
theorem isAbsolute_congr {other : Text} (same : rootSlashes path = rootSlashes other) :
    isAbsolute path = isAbsolute other := by
  obtain ⟨_, opens⟩ | ⟨_, opens⟩ := rootSlashes_cases path <;>
    obtain ⟨_, others⟩ | ⟨_, others⟩ := rootSlashes_cases other <;>
      simp_all

/-- At the root all steps up are dropped. -/
theorem isName_of_isAbsolute (absolute : isAbsolute path = true) :
    ∀ name ∈ components path, IsName name := by
  have walked : ∀ (pieces stack : List Text), (∀ piece ∈ pieces, '/' ∉ piece) →
      (∀ name ∈ stack, IsName name) → ∀ name ∈ pieces.foldl (push true) stack, IsName name := by
    intro pieces
    induction pieces with
    | nil => exact fun stack _ areNames => areNames
    | cons piece rest ih =>
        intro stack clean areNames
        refine ih _ (fun other member => clean other (List.mem_cons_of_mem _ member)) ?_
        by_cases name : IsName piece
        · rw [push_name name]
          exact List.forall_mem_cons.mpr ⟨name, areNames⟩
        · rcases (not_isName_iff (clean piece List.mem_cons_self)).mp name with rfl | rfl | rfl
          · rwa [push_empty]
          · rwa [push_dot]
          · cases stack with
            | nil =>
                rw [push_up_nil]
                simp
            | cons last more =>
                rw [push_up_name (areNames last List.mem_cons_self)]
                exact fun other member => areNames other (List.mem_cons_of_mem _ member)
  intro name member
  rw [components_eq, List.mem_reverse, absolute] at member
  exact walked _ [] (fun _ inside => Text.not_mem_of_mem_splitOn inside) (by simp) name member

/-- Components are names or steps up. -/
theorem isName_or_eq_up {name : Text} (member : name ∈ components path) :
    IsName name ∨ name = up := by
  obtain ⟨count, names, areNames, shape⟩ := exists_way path
  rw [shape, List.mem_append] at member
  exact member.elim (fun isUp => .inr (List.eq_of_mem_replicate isUp))
    fun isNamed => .inl (areNames name isNamed)

/-- Only steps up stand in front of a step up. -/
theorem eq_up_of_components {front rest : List Text}
    (shape : components path = front ++ up :: rest) : ∀ name ∈ front, name = up := by
  obtain ⟨count, names, areNames, way⟩ := exists_way path
  rw [way, List.append_eq_append_iff] at shape
  intro name member
  rcases shape with ⟨others, -, named⟩ | ⟨others, ups, -⟩
  · have isNamed : up ∈ names := named ▸ List.mem_append_right _ List.mem_cons_self
    exact absurd rfl (areNames up isNamed).2.2.1
  · exact List.eq_of_mem_replicate (ups ▸ List.mem_append_left _ member)

/-- Only names stand behind a name. -/
theorem isName_of_components {front rest : List Text} {name : Text} (isName : IsName name)
    (shape : components path = front ++ name :: rest) : ∀ other ∈ rest, IsName other := by
  intro other member
  rcases isName_or_eq_up (shape ▸ List.mem_append_right _ (List.mem_cons_of_mem _ member)) with
    named | rfl
  · exact named
  · obtain ⟨before, behind, rfl⟩ := List.append_of_mem member
    have inFront : components path = (front ++ name :: before) ++ up :: behind := by simp [shape]
    have isUp := eq_up_of_components inFront name (by simp)
    exact absurd isUp isName.2.2.1

/-! ## Normal forms -/

theorem normalize_eq_of_components (some : components path ≠ []) :
    normalize path = rootSlashes path ++ Text.join ['/'] (components path) := by
  obtain ⟨front, c, -, shape⟩ :=
    exists_join_eq_concat some fun part member => isPart_of_mem_components member
  simp [normalize, shape]

theorem normalize_congr {other : Text} (opens : rootSlashes path = rootSlashes other)
    (same : components path = components other) : normalize path = normalize other := by
  rw [normalize, normalize, opens, same]

/-- Each slash that opens a normal form leaves an empty piece in front of the components. -/
theorem splitOn_normalize (some : components path ≠ []) :
    Text.splitOn '/' (normalize path) =
      (rootSlashes path).map (fun _ => []) ++ components path := by
  have pieces : Text.splitOn '/' (Text.join ['/'] (components path)) = components path :=
    Text.splitOn_join some fun part member => (isPart_of_mem_components member).2
  rw [normalize_eq_of_components some]
  rcases rootSlashes_cases path with ⟨-, opens⟩ | ⟨-, opens | opens⟩ <;>
    simp [opens, pieces, Text.splitOn_cons_separator]

theorem normalize_cases_of_components_eq_nil (none : components path = []) :
    (isAbsolute path = false ∧ normalize path = ['.']) ∨
      (isAbsolute path = true ∧ normalize path = rootSlashes path) := by
  rcases rootSlashes_cases path with ⟨relative, opens⟩ | ⟨absolute, opens | opens⟩
  · exact .inl ⟨relative, by simp [normalize, opens, none]⟩
  · exact .inr ⟨absolute, by simp [normalize, opens, none]⟩
  · exact .inr ⟨absolute, by simp [normalize, opens, none]⟩

theorem rootSlashes_normalize (path : Text) : rootSlashes (normalize path) = rootSlashes path := by
  by_cases none : components path = []
  · rcases rootSlashes_cases path with ⟨-, opens⟩ | ⟨-, opens | opens⟩ <;>
      rw [normalize, opens, none] <;> rfl
  · have relative : isAbsolute (Text.join ['/'] (components path)) = false :=
      isAbsolute_join_parts fun part member => isPart_of_mem_components member
    rw [normalize_eq_of_components none]
    rcases rootSlashes_cases path with ⟨-, opens⟩ | ⟨-, opens | opens⟩
    · rw [opens]
      exact rootSlashes_of_relative relative
    · rw [opens]
      exact rootSlashes_slash relative
    · rw [opens]
      cases shape : Text.join ['/'] (components path) with
      | nil => rfl
      | cons c rest =>
          have different : c ≠ '/' := by simpa [isAbsolute, shape] using relative
          simp [rootSlashes, different]

theorem isAbsolute_normalize (path : Text) : isAbsolute (normalize path) = isAbsolute path :=
  isAbsolute_congr (rootSlashes_normalize path)

/-- Walking along components leads to them. -/
private theorem foldl_push_components (path : Text) :
    (components path).foldl (push (isAbsolute path)) [] = (components path).reverse := by
  cases absolute : isAbsolute path with
  | true => simpa using foldl_push_names (isName_of_isAbsolute absolute) true []
  | false =>
      obtain ⟨count, names, areNames, shape⟩ := exists_way path
      have ups : (List.replicate count up).foldl (push false) [] = List.replicate count up :=
        foldl_push_ups_relative (List.forall_mem_nil _) (Nat.zero_le count)
      rw [shape, List.foldl_append, ups, foldl_push_names areNames]
      simp

theorem components_normalize (path : Text) : components (normalize path) = components path := by
  by_cases none : components path = []
  · rw [none]
    rcases normalize_cases_of_components_eq_nil none with ⟨-, normal⟩ | ⟨-, normal⟩
    · rw [normal]
      rfl
    · rw [normal]
      rcases rootSlashes_cases path with ⟨-, opens⟩ | ⟨-, opens | opens⟩ <;> rw [opens] <;> rfl
  · have skipped : ∀ slashes : Text, (slashes.map fun _ => ([] : Text)).foldl
        (push (isAbsolute path)) [] = [] := by
      intro slashes
      induction slashes with
      | nil => rfl
      | cons c rest ih => simpa using ih
    rw [components_eq, isAbsolute_normalize, follow, splitOn_normalize none, List.foldl_append,
      skipped, foldl_push_components, List.reverse_reverse]

theorem normalize_normalize (path : Text) : normalize (normalize path) = normalize path :=
  normalize_congr (rootSlashes_normalize path) (components_normalize path)

/-! ## Continued normal forms -/

/-- Empty pieces in front of pieces that are not empty can be counted. -/
private theorem blanks_append_inj {left right : Text} {first second : Text}
    {rest others : List Text} (some : first ≠ []) (other : second ≠ [])
    (same : left.map (fun _ => []) ++ first :: rest = right.map (fun _ => []) ++ second :: others) :
    left.length = right.length ∧ first :: rest = second :: others := by
  induction left generalizing right with
  | nil =>
      cases right with
      | nil => exact ⟨rfl, same⟩
      | cons _ more => exact absurd (List.head_eq_of_cons_eq same) some
  | cons _ front ih =>
      cases right with
      | nil => exact absurd (List.head_eq_of_cons_eq same).symm other
      | cons _ more =>
          obtain ⟨lengths, rest⟩ := ih (List.tail_eq_of_cons_eq same)
          exact ⟨congrArg (· + 1) lengths, rest⟩

variable {key way : Text}

/-- Behind a normal form with components come further components. -/
theorem components_continued (normal : normalize key = key) (some : components path ≠ [])
    (shape : key = normalize path ++ '/' :: way) :
    rootSlashes key = rootSlashes path ∧
      components key = components path ++ Text.splitOn '/' way := by
  obtain ⟨first, rest, parts⟩ := List.exists_cons_of_ne_nil some
  have firstPart : IsPart first := isPart_of_mem_components (parts ▸ List.mem_cons_self)
  have pieces : Text.splitOn '/' key = (rootSlashes path).map (fun _ => []) ++
      first :: (rest ++ Text.splitOn '/' way) := by
    rw [shape, Text.splitOn_append_separator, splitOn_normalize some, parts]
    simp
  have keySome : components key ≠ [] := by
    intro none
    have inside : first ∈ Text.splitOn '/' key := by simp [pieces]
    rcases normalize_cases_of_components_eq_nil none with ⟨-, isDot⟩ | ⟨-, isSlashes⟩
    · have lengths := congrArg List.length pieces
      have more := List.length_pos_iff.mpr (Text.splitOn_ne_nil '/' way)
      rw [← normal, isDot, show Text.splitOn '/' ['.'] = [['.']] from rfl] at lengths
      simp only [List.length_cons, List.length_nil, List.length_append] at lengths
      omega
    · apply firstPart.1
      rw [← normal, isSlashes] at inside
      rcases rootSlashes_cases key with ⟨-, opens⟩ | ⟨-, opens | opens⟩ <;> rw [opens] at inside <;>
        simpa [Text.splitOn_cons_separator] using inside
  obtain ⟨keyFirst, keyRest, keyParts⟩ := List.exists_cons_of_ne_nil keySome
  have keyFirstPart : IsPart keyFirst :=
    isPart_of_mem_components (keyParts ▸ List.mem_cons_self)
  have own := splitOn_normalize keySome
  rw [normal, pieces, keyParts] at own
  obtain ⟨lengths, same⟩ := blanks_append_inj firstPart.1 keyFirstPart.1 own
  constructor
  · have slashes : ∀ path, rootSlashes path = List.replicate (rootSlashes path).length '/' := by
      intro path
      rcases rootSlashes_cases path with ⟨-, opens⟩ | ⟨-, opens | opens⟩ <;> rw [opens] <;> rfl
    rw [slashes key, slashes path, lengths]
  · rw [keyParts, ← same, parts, List.cons_append]

theorem eq_continued (normal : normalize key = key) (some : components path ≠ [])
    (opens : rootSlashes key = rootSlashes path) {rest : List Text} (someRest : rest ≠ [])
    (parts : components key = components path ++ rest) :
    key = normalize path ++ '/' :: Text.join ['/'] rest := by
  have keySome : components key ≠ [] := by simp [parts, some]
  rw [← normal, normalize_eq_of_components keySome, normalize_eq_of_components some, opens, parts,
    Text.join_append some someRest]
  simp

end Companion.Path
