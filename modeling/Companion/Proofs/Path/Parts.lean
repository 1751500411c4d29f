import Companion.Proofs.Path.Normal
import Mathlib.Data.List.Induction

/-!
# Parts of paths

The directory part and the last component of a path, seen through the walks along them, and joined
paths. A path of names is its own normal form, and its parts are paths of names again.
-/

set_option autoImplicit false

namespace Companion.Path

/-! ## Slashes at the end -/

@[simp] theorem dropFinalSlashes_concat_slash (path : Text) :
    dropFinalSlashes (path ++ ['/']) = dropFinalSlashes path := by
  simp [dropFinalSlashes]

theorem dropFinalSlashes_concat {c : Char} (different : c ≠ '/') (path : Text) :
    dropFinalSlashes (path ++ [c]) = path ++ [c] := by
  simp [dropFinalSlashes, different]

theorem follow_concat_slash (rooted : Bool) (stack : List Text) (path : Text) :
    follow rooted stack (path ++ ['/']) = follow rooted stack path := by
  rw [follow_append_slash, follow_nil]

theorem follow_dropFinalSlashes (rooted : Bool) (stack : List Text) (path : Text) :
    follow rooted stack (dropFinalSlashes path) = follow rooted stack path := by
  induction path using List.reverseRecOn with
  | nil => rfl
  | append_singleton path c ih =>
      by_cases slash : c = '/'
      · rw [slash, dropFinalSlashes_concat_slash, ih, follow_concat_slash]
      · rw [dropFinalSlashes_concat slash]

theorem isAbsolute_append {left : Text} (some : left ≠ []) (right : Text) :
    isAbsolute (left ++ right) = isAbsolute left := by
  cases left with
  | nil => exact absurd rfl some
  | cons c rest => rfl

theorem isAbsolute_of_not_mem {path : Text} (clean : '/' ∉ path) : isAbsolute path = false := by
  cases path with
  | nil => rfl
  | cons c rest =>
      have different : c ≠ '/' := fun same => clean (same ▸ List.mem_cons_self)
      simp [isAbsolute, different]

theorem isAbsolute_dropFinalSlashes {path : Text} (other : path.all (· = '/') = false) :
    isAbsolute (dropFinalSlashes path) = isAbsolute path := by
  induction path using List.reverseRecOn with
  | nil => rfl
  | append_singleton path c ih =>
      by_cases slash : c = '/'
      · subst slash
        have before : path.all (· = '/') = false := by simpa using other
        have some : path ≠ [] := by
          rintro rfl
          simp at before
        rw [dropFinalSlashes_concat_slash, ih before, isAbsolute_append some]
      · rw [dropFinalSlashes_concat slash]

/-! ## Slashes at the start -/

theorem rootSlashes_of_relative {path : Text} (relative : isAbsolute path = false) :
    rootSlashes path = [] := by
  unfold rootSlashes
  split <;> simp_all [isAbsolute]

theorem rootSlashes_slash {rest : Text} (relative : isAbsolute rest = false) :
    rootSlashes ('/' :: rest) = ['/'] := by
  unfold rootSlashes
  split <;> simp_all [isAbsolute]

/-- Only the first three characters matter. -/
theorem rootSlashes_three (first second third : Char) (rest : Text) :
    rootSlashes (first :: second :: third :: rest) =
      if first = '/' then if second = '/' ∧ third ≠ '/' then ['/', '/'] else ['/'] else [] := by
  by_cases slash : first = '/'
  · by_cases again : second = '/'
    · by_cases more : third = '/' <;> simp [rootSlashes, slash, again, more]
    · rw [slash, rootSlashes_slash (by simp [isAbsolute, again])]
      simp [again]
  · rw [rootSlashes_of_relative (by simp [isAbsolute, slash]), if_neg slash]

/-- Two slashes are kept only where a path starts with them. -/
theorem startsWith_of_rootSlashes {path : Text} (opens : rootSlashes path = ['/', '/']) :
    path.startsWith "//" = true := by
  unfold rootSlashes at opens
  split at opens
  · rfl
  · rfl
  · simp at opens
  · simp at opens

/-! ## Directory and last component -/

/-- A path has no slash or a last one. -/
theorem exists_last_slash (path : Text) :
    '/' ∉ path ∨ ∃ head last, '/' ∉ last ∧ path = head ++ '/' :: last := by
  induction path with
  | nil => exact .inl (by simp)
  | cons c rest ih =>
      rcases ih with clean | ⟨head, last, clean, rfl⟩
      · by_cases slash : c = '/'
        · exact .inr ⟨[], rest, clean, by rw [slash, List.nil_append]⟩
        · exact .inl (by simp [Ne.symm slash, clean])
      · exact .inr ⟨c :: head, last, clean, rfl⟩

private theorem afterLastSlash_of_not_mem {path : Text} (clean : '/' ∉ path)
    (position found : Nat) : afterLastSlash position found path = found := by
  induction path generalizing position with
  | nil => rfl
  | cons c rest ih =>
      rw [List.mem_cons, not_or] at clean
      rw [afterLastSlash, if_neg (Ne.symm clean.1), ih clean.2]

private theorem afterLastSlash_append_slash {last : Text} (clean : '/' ∉ last) (head : Text)
    (position found : Nat) :
    afterLastSlash position found (head ++ '/' :: last) = position + head.length + 1 := by
  induction head generalizing position found with
  | nil => exact afterLastSlash_of_not_mem clean _ _
  | cons c rest ih =>
      rw [List.cons_append, afterLastSlash, ih, List.length_cons]
      omega

theorem split_of_not_mem {path : Text} (clean : '/' ∉ path) : split path = ([], path) := by
  simp [split, afterLastSlash_of_not_mem clean]

theorem split_append_slash {last : Text} (clean : '/' ∉ last) (head : Text) :
    split (head ++ '/' :: last) =
      (if head.all (· = '/') then head ++ ['/'] else dropFinalSlashes head, last) := by
  have cut : (head ++ '/' :: last) = (head ++ ['/']) ++ last := by simp
  have place : afterLastSlash 0 0 (head ++ '/' :: last) = (head ++ ['/']).length := by
    rw [afterLastSlash_append_slash clean]
    simp
  rw [split, place, cut, List.take_left, List.drop_left]
  simp

theorem directory_of_not_mem {path : Text} (clean : '/' ∉ path) : directory path = [] := by
  rw [directory, split_of_not_mem clean]

theorem base_of_not_mem {path : Text} (clean : '/' ∉ path) : base path = path := by
  rw [base, split_of_not_mem clean]

theorem directory_append_slash {last : Text} (clean : '/' ∉ last) (head : Text) :
    directory (head ++ '/' :: last) =
      if head.all (· = '/') then head ++ ['/'] else dropFinalSlashes head := by
  rw [directory, split_append_slash clean]

theorem base_append_slash {last : Text} (clean : '/' ∉ last) (head : Text) :
    base (head ++ '/' :: last) = last := by
  rw [base, split_append_slash clean]

theorem not_mem_base (path : Text) : '/' ∉ base path := by
  rcases exists_last_slash path with clean | ⟨head, last, clean, rfl⟩
  · rwa [base_of_not_mem clean]
  · rwa [base_append_slash clean]

theorem isAbsolute_directory (path : Text) : isAbsolute (directory path) = isAbsolute path := by
  rcases exists_last_slash path with clean | ⟨head, last, clean, rfl⟩
  · rw [directory_of_not_mem clean, isAbsolute_of_not_mem clean]
    rfl
  · rw [directory_append_slash clean]
    cases head with
    | nil => rfl
    | cons c rest =>
        split
        · rfl
        · next other => exact isAbsolute_dropFinalSlashes (Bool.eq_false_iff.mpr other)

/-- A walk along a path is one along its directory part and a last component. -/
theorem follow_eq_push_base (rooted : Bool) (stack : List Text) (path : Text) :
    follow rooted stack path = push rooted (follow rooted stack (directory path)) (base path) := by
  rcases exists_last_slash path with clean | ⟨head, last, clean, rfl⟩
  · rw [directory_of_not_mem clean, base_of_not_mem clean, follow_nil, follow_eq_push clean]
  · rw [directory_append_slash clean, base_append_slash clean, follow_append_slash,
      follow_eq_push clean]
    split
    · rw [follow_concat_slash]
    · rw [follow_dropFinalSlashes]

/-! ## Joined paths -/

theorem join_of_relative {next : Text} (relative : isAbsolute next = false) (path : Text) :
    join path next =
      if path = [] ∨ path.getLast? = some '/' then path ++ next else path ++ '/' :: next := by
  have inside : ¬ next.head? = some '/' := by simpa [isAbsolute] using relative
  simp [join, inside]

/-- Joined paths are walked one after the other. -/
theorem follow_join {next : Text} (relative : isAbsolute next = false) (rooted : Bool)
    (stack : List Text) (path : Text) :
    follow rooted stack (join path next) = follow rooted (follow rooted stack path) next := by
  rw [join_of_relative relative]
  split
  · next closed =>
      rcases closed with rfl | ends
      · rw [List.nil_append, follow_nil]
      · obtain ⟨front, rfl⟩ := List.getLast?_eq_some_iff.mp ends
        rw [List.append_assoc, List.singleton_append, follow_append_slash, follow_concat_slash]
  · exact follow_append_slash rooted stack path next

theorem isAbsolute_join {next : Text} (relative : isAbsolute next = false) (path : Text) :
    isAbsolute (join path next) = isAbsolute path := by
  rw [join_of_relative relative]
  by_cases none : path = []
  · subst none
    rw [if_pos (.inl rfl)]
    exact relative
  · split <;> exact isAbsolute_append none _

/-- What opens a path opens what it is joined with. -/
theorem rootSlashes_join {next : Text} (relative : isAbsolute next = false) (path : Text) :
    rootSlashes (join path next) = rootSlashes path := by
  by_cases absolute : isAbsolute path = true
  · obtain ⟨rest, rfl⟩ : ∃ rest, path = '/' :: rest := by
      cases path with
      | nil => simp [isAbsolute] at absolute
      | cons c rest => exact ⟨rest, by simpa [isAbsolute] using absolute⟩
    rcases rest with _ | ⟨second, _ | ⟨third, rest⟩⟩
    · rw [join_of_relative relative, if_pos (.inr rfl)]
      exact rootSlashes_slash relative
    · by_cases slash : second = '/'
      · subst slash
        cases next with
        | nil => rfl
        | cons c more =>
            have different : c ≠ '/' := by simpa [isAbsolute] using relative
            simp [join_of_relative relative, different, rootSlashes]
      · have open_ : isAbsolute [second] = false := by simp [isAbsolute, slash]
        rw [rootSlashes_slash open_, join_of_relative relative,
          if_neg (by simp [slash]), List.cons_append,
          rootSlashes_slash ((isAbsolute_append (by simp) _).trans open_)]
    · rw [join_of_relative relative]
      split <;> simp only [List.cons_append, rootSlashes_three]
  · have relativePath := Bool.eq_false_iff.mpr absolute
    rw [rootSlashes_of_relative relativePath,
      rootSlashes_of_relative ((isAbsolute_join relative path).trans relativePath)]

/-- The last component of a path that is joined with a component is this component. -/
theorem base_join {component : Text} (clean : '/' ∉ component) (path : Text) :
    base (join path component) = component := by
  rw [join_of_relative (isAbsolute_of_not_mem clean)]
  split
  · next closed =>
    cases closed with
    | inl none => rw [none, List.nil_append, base_of_not_mem clean]
    | inr ends =>
        obtain ⟨front, rfl⟩ := List.getLast?_eq_some_iff.mp ends
        rw [List.append_assoc, List.singleton_append, base_append_slash clean]
  · exact base_append_slash clean path

theorem components_join {next : Text} (relative : isAbsolute next = false) (path : Text) :
    components (join path next) =
      (follow (isAbsolute path) (components path).reverse next).reverse := by
  rw [components_eq, components_eq, isAbsolute_join relative, follow_join relative,
    List.reverse_reverse]

end Companion.Path
