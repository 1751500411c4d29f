import Companion.Proofs.Path.Forms

/-!
# Ways between paths

The way from a directory to a path goes up to the last directory that both have in common and then
down. Walked from the directory it leads to the path, as long as no step up is left in either of them.
Paths of one kind, relative or absolute, have the same way between them from every working directory
unless they leave it.
-/

set_option autoImplicit false

namespace Companion.Path

/-! ## Slashes of directories -/

/-- The slashes that open a path are told before its first other character ends. -/
private theorem rootSlashes_append {path : Text} (other : path.all (· = '/') = false) (rest : Text) :
    rootSlashes (path ++ rest) = rootSlashes path := by
  rcases path with _ | ⟨first, _ | ⟨second, _ | ⟨third, more⟩⟩⟩
  · cases other
  · have different : first ≠ '/' := by simpa using other
    rw [rootSlashes_of_relative (by simp [isAbsolute, different]),
      rootSlashes_of_relative (by simp [isAbsolute, different])]
  · by_cases slash : first = '/'
    · have different : second ≠ '/' := by simpa [slash] using other
      rw [slash, List.cons_append, rootSlashes_slash (by simp [isAbsolute, different]),
        rootSlashes_slash (by simp [isAbsolute, different])]
    · rw [rootSlashes_of_relative (by simp [isAbsolute, slash]),
        rootSlashes_of_relative (by simp [isAbsolute, slash])]
  · rw [List.cons_append, List.cons_append, List.cons_append, rootSlashes_three, rootSlashes_three]

private theorem rootSlashes_dropFinalSlashes {path : Text} (other : path.all (· = '/') = false) :
    rootSlashes (dropFinalSlashes path) = rootSlashes path := by
  induction path using List.reverseRecOn with
  | nil => rfl
  | append_singleton path c ih =>
      by_cases slash : c = '/'
      · subst slash
        have before : path.all (· = '/') = false := by simpa using other
        rw [dropFinalSlashes_concat_slash, ih before, rootSlashes_append before]
      · rw [dropFinalSlashes_concat slash]

theorem rootSlashes_directory (path : Text) : rootSlashes (directory path) = rootSlashes path := by
  cases exists_last_slash path with
  | inl clean =>
      rw [directory_of_not_mem clean, rootSlashes_of_relative (isAbsolute_of_not_mem clean)]
      rfl
  | inr cut =>
      obtain ⟨head, last, clean, rfl⟩ := cut
      rw [directory_append_slash clean]
      split
      · -- a last component does not matter behind slashes
        have joined : join (head ++ ['/']) last = head ++ '/' :: last := by
          rw [join_of_relative (isAbsolute_of_not_mem clean), if_pos (.inr (by simp))]
          simp
        rw [← joined, rootSlashes_join (isAbsolute_of_not_mem clean)]
      · next other =>
        have before := Bool.eq_false_iff.mpr other
        rw [rootSlashes_dropFinalSlashes before, rootSlashes_append before]

/-! ## Paths without steps up -/

variable {path : Text}

/-- What opens with a step up does so after every further component. -/
private theorem getLast?_push {stack : List Text} (opens : stack.getLast? = some up)
    (component : Text) : (push false stack component).getLast? = some up := by
  obtain ⟨front, rfl⟩ := List.getLast?_eq_some_iff.mp opens
  unfold push
  split
  · exact opens
  · split
    · rw [← List.cons_append]
      exact List.getLast?_concat
    · cases front with
      | nil => simp_all
      | cons last rest =>
          rw [List.cons_append]
          dsimp only
          split
          · rw [← List.cons_append, ← List.cons_append]
            exact List.getLast?_concat
          · exact List.getLast?_concat

theorem areNames_of_head?_ne (noStepUp : (components path).head? ≠ some up) :
    ∀ name ∈ components path, IsName name := by
  obtain ⟨count, names, areNames, shape⟩ := exists_way path
  cases count with
  | zero =>
      rw [shape, List.replicate_zero, List.nil_append]
      exact areNames
  | succ count =>
      rw [shape, List.replicate_succ] at noStepUp
      exact absurd rfl noStepUp

theorem areNames_directory (areNames : ∀ name ∈ components path, IsName name) :
    ∀ name ∈ components (directory path), IsName name := by
  cases absolute : isAbsolute path with
  | true => exact isName_of_isAbsolute ((isAbsolute_directory path).trans absolute)
  | false =>
      apply areNames_of_head?_ne
      intro opens
      -- otherwise the step up would still open the path itself
      rw [components_eq, isAbsolute_directory, absolute, List.head?_reverse] at opens
      have kept := getLast?_push opens (base path)
      rw [← follow_eq_push_base, ← List.head?_reverse, ← absolute, ← components_eq] at kept
      exact (areNames up (List.mem_of_mem_head? kept)).2.2.1 rfl

theorem mem_splitOn_of_mem_components {name : Text} (member : name ∈ components path) :
    name ∈ Text.splitOn '/' path := by
  have walked : ∀ (pieces stack : List Text), ∀ name ∈ pieces.foldl (push (isAbsolute path)) stack,
      name ∈ pieces ∨ name ∈ stack := by
    intro pieces
    induction pieces with
    | nil => exact fun stack name inside => .inr inside
    | cons piece rest ih =>
        intro stack name inside
        have pushed : name ∈ push (isAbsolute path) stack piece → name = piece ∨ name ∈ stack := by
          unfold push
          grind
        cases ih _ name inside with
        | inl inRest => exact .inl (List.mem_cons_of_mem _ inRest)
        | inr inStack =>
            cases pushed inStack with
            | inl isPiece => exact .inl (isPiece ▸ List.mem_cons_self)
            | inr inside => exact .inr inside
  rw [components_eq, List.mem_reverse] at member
  exact (walked _ [] name member).resolve_right List.not_mem_nil

theorem mem_of_mem_components {name : Text} (member : name ∈ components path) {c : Char}
    (inName : c ∈ name) : c ∈ path := by
  rw [← Text.join_splitOn '/' path]
  exact Text.mem_join (mem_splitOn_of_mem_components member) inName

/-! ## Ways -/

variable {target start common passed down : List Text}

theorem exists_common (target start : List Text) : ∃ common,
    target = common ++ (dropCommon target start).1 ∧
      start = common ++ (dropCommon target start).2 := by
  induction target generalizing start with
  | nil => exact ⟨[], rfl, rfl⟩
  | cons name rest ih =>
      cases start with
      | nil => exact ⟨[], rfl, rfl⟩
      | cons other others =>
          by_cases same : name = other
          · obtain ⟨common, isTarget, isStart⟩ := ih others
            rw [dropCommon, if_pos same]
            exact ⟨name :: common, congrArg (name :: ·) isTarget, same ▸ congrArg (name :: ·) isStart⟩
          · rw [dropCommon, if_neg same]
            exact ⟨[], rfl, rfl⟩

theorem exists_wayTo_eq (apart : ¬ target <+: start) : ∃ common passed down,
    target = common ++ down ∧ start = common ++ passed ∧ down ≠ [] ∧
      wayTo target start = Text.join ['/'] (List.replicate passed.length up ++ down) := by
  obtain ⟨common, isTarget, isStart⟩ := exists_common target start
  cases rest : dropCommon target start with
  | mk down passed =>
      rw [rest] at isTarget isStart
      have some : down ≠ [] := by
        intro none
        rw [none, List.append_nil] at isTarget
        exact apart (isTarget ▸ isStart ▸ List.prefix_append common passed)
      have ups : passed.map (fun _ => up) = List.replicate passed.length up := List.map_const' ..
      refine ⟨common, passed, down, isTarget, isStart, some, ?_⟩
      simp [wayTo, rest, some, ups]

private theorem foldl_push_ups_passed {names stack : List Text} (areNames : ∀ name ∈ names, IsName name)
    (rooted : Bool) :
    (List.replicate names.length up).foldl (push rooted) (names ++ stack) = stack := by
  induction names with
  | nil => rfl
  | cons name rest ih =>
      rw [List.length_cons, List.replicate_succ, List.foldl_cons, List.cons_append,
        push_up_name (areNames name List.mem_cons_self)]
      exact ih fun other member => areNames other (List.mem_cons_of_mem _ member)

/-- Walking up from the start and down again leads to the target. -/
theorem foldl_push_way (rooted : Bool) (arePassed : ∀ name ∈ passed, IsName name)
    (areDown : ∀ name ∈ down, IsName name) :
    (List.replicate passed.length up ++ down).foldl (push rooted) (common ++ passed).reverse =
      (common ++ down).reverse := by
  have climbed : (List.replicate passed.length up).foldl (push rooted) (common ++ passed).reverse =
      common.reverse := by
    rw [List.reverse_append, ← List.length_reverse]
    exact foldl_push_ups_passed (fun name member => arePassed name (List.mem_reverse.mp member)) rooted
  rw [List.foldl_append, climbed, foldl_push_names areDown, List.reverse_append]

theorem wayTo_append (home target start : List Text) :
    wayTo (home ++ target) (home ++ start) = wayTo target start := by
  have common : dropCommon (home ++ target) (home ++ start) = dropCommon target start := by
    induction home with
    | nil => rfl
    | cons name rest ih => rw [List.cons_append, List.cons_append, dropCommon, if_pos rfl, ih]
  rw [wayTo, common, wayTo]

/-! ## Ways seen from a working directory -/

theorem components_absolute_of_isAbsolute (rooted : isAbsolute path = true) (working : Text) :
    components (absolute working path) = components path := by
  rw [absolute, join, if_pos (by simpa [isAbsolute] using rooted), components_normalize]

/-- A relative path that stays in the working directory goes on behind it. -/
theorem components_absolute_of_relative (relative : isAbsolute path = false)
    (areNames : ∀ name ∈ components path, IsName name) (working : Text) :
    components (absolute working path) = components working ++ components path := by
  have steps : components path = List.replicate 0 up ++ components path := rfl
  rw [absolute, components_normalize, components_join relative,
    follow_of_components relative areNames steps]
  simp

/-- From an absolute working directory no step up is left. -/
theorem areNames_absolute {working : Text} (rooted : isAbsolute working = true) (path : Text) :
    ∀ name ∈ components (absolute working path), IsName name := by
  apply isName_of_isAbsolute
  rw [absolute, isAbsolute_normalize]
  cases own : isAbsolute path with
  | true => rwa [join, if_pos (by simpa [isAbsolute] using own)]
  | false => rwa [isAbsolute_join own]

theorem relative_eq_wayTo {other : Text} (sameKind : isAbsolute path = isAbsolute other)
    (areNames : ∀ name ∈ components path, IsName name)
    (areOthers : ∀ name ∈ components other, IsName name) (working : Text) :
    relative working path other = wayTo (components path) (components other) := by
  cases rooted : isAbsolute path with
  | true =>
      rw [relative, components_absolute_of_isAbsolute rooted,
        components_absolute_of_isAbsolute (sameKind ▸ rooted)]
  | false =>
      rw [relative, components_absolute_of_relative rooted areNames,
        components_absolute_of_relative (sameKind ▸ rooted) areOthers, wayTo_append]

end Companion.Path
