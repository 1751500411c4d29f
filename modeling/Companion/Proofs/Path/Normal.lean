import Companion.Path
import Companion.Proofs.Text.Pieces

/-!
# Normal forms

The components of a normal form are what is left of a walk along the path: names are entered, steps
up are taken back or, at the start of a relative path, kept. A walk may be cut at any slash, and a
relative path leads from everywhere to where its normal form leads.
-/

set_option autoImplicit false

namespace Companion.Path

/-- The component that leads one directory up. -/
abbrev up : Text := ['.', '.']

/-- A component that names an entry of a directory. -/
def IsName (component : Text) : Prop :=
  component ≠ [] ∧ component ≠ ['.'] ∧ component ≠ up ∧ '/' ∉ component

instance (component : Text) : Decidable (IsName component) :=
  inferInstanceAs (Decidable (_ ∧ _))

/-- Walks along a path from a directory, given by its components with the last one first. -/
def follow (rooted : Bool) (stack : List Text) (path : Text) : List Text :=
  (Text.splitOn '/' path).foldl (push rooted) stack

theorem components_eq (path : Text) :
    components path = (follow (isAbsolute path) [] path).reverse := rfl

/-! ## Single components -/

theorem push_name {component : Text} (name : IsName component) (rooted : Bool)
    (stack : List Text) : push rooted stack component = component :: stack := by
  obtain ⟨some, notDot, notUp, _⟩ := name
  simp [push, some, notDot, notUp]

@[simp] theorem push_empty (rooted : Bool) (stack : List Text) : push rooted stack [] = stack := by
  simp [push]

@[simp] theorem push_dot (rooted : Bool) (stack : List Text) :
    push rooted stack ['.'] = stack := by
  simp [push]

theorem push_up_nil (rooted : Bool) : push rooted [] up = if rooted then [] else [up] := by
  simp [push]

theorem push_up_name {last : Text} (name : IsName last) (rooted : Bool) (stack : List Text) :
    push rooted (last :: stack) up = stack := by
  simp [push, name.2.2.1]

theorem push_up_up (rooted : Bool) (stack : List Text) :
    push rooted (up :: stack) up = up :: up :: stack := by
  simp [push]

/-- Components that are no names are skipped or lead up. -/
theorem not_isName_iff {component : Text} (clean : '/' ∉ component) :
    ¬ IsName component ↔ component = [] ∨ component = ['.'] ∨ component = up := by
  by_cases empty : component = [] <;> by_cases dot : component = ['.'] <;>
    by_cases isUp : component = up <;> simp [IsName, empty, dot, isUp, clean]

/-! ## Walks -/

theorem follow_eq_push {component : Text} (clean : '/' ∉ component) (rooted : Bool)
    (stack : List Text) : follow rooted stack component = push rooted stack component := by
  rw [follow, Text.splitOn_eq_singleton clean]
  rfl

@[simp] theorem follow_nil (rooted : Bool) (stack : List Text) : follow rooted stack [] = stack := by
  simp [follow]

/-- A walk along a path is a walk along its part before a slash and one along the part behind. -/
theorem follow_append_slash (rooted : Bool) (stack : List Text) (left right : Text) :
    follow rooted stack (left ++ '/' :: right) = follow rooted (follow rooted stack left) right := by
  rw [follow, Text.splitOn_append_separator, List.foldl_append]
  rfl

theorem follow_slash (rooted : Bool) (stack : List Text) (path : Text) :
    follow rooted stack ('/' :: path) = follow rooted stack path := by
  simpa using follow_append_slash rooted stack [] path

theorem foldl_push_names {names : List Text} (areNames : ∀ name ∈ names, IsName name)
    (rooted : Bool) (stack : List Text) :
    names.foldl (push rooted) stack = names.reverse ++ stack := by
  induction names generalizing stack with
  | nil => rfl
  | cons name rest ih =>
      rw [List.foldl_cons, push_name (areNames name List.mem_cons_self),
        ih fun other member => areNames other (List.mem_cons_of_mem _ member)]
      simp

theorem follow_names {names : List Text} (areNames : ∀ name ∈ names, IsName name)
    (rooted : Bool) (stack : List Text) :
    follow rooted stack (Text.join ['/'] names) = names.reverse ++ stack := by
  by_cases none : names = []
  · simp [none]
  · rw [follow, Text.splitOn_join none fun name member => (areNames name member).2.2.2,
      foldl_push_names areNames]

/-! ## Steps up -/

/-- Steps up from below names take the last names back. -/
theorem foldl_push_ups {names : List Text} (areNames : ∀ name ∈ names, IsName name)
    (rooted : Bool) {count : Nat} (within : count ≤ names.length) :
    (List.replicate count up).foldl (push rooted) names = names.drop count := by
  induction count generalizing names with
  | zero => rfl
  | succ count ih =>
      cases names with
      | nil => simp at within
      | cons name rest =>
          rw [List.replicate_succ, List.foldl_cons, push_up_name (areNames name List.mem_cons_self)]
          exact ih (fun other member => areNames other (List.mem_cons_of_mem _ member))
            (by simpa using within)

/-- The root has no step up. -/
theorem foldl_push_ups_root (count : Nat) : (List.replicate count up).foldl (push true) [] = [] := by
  induction count with
  | zero => rfl
  | succ count ih => simpa [List.replicate_succ, push_up_nil] using ih

/-- Further steps up lead to the root. -/
theorem foldl_push_ups_rooted {names : List Text} (areNames : ∀ name ∈ names, IsName name)
    {count : Nat} (beyond : names.length ≤ count) :
    (List.replicate count up).foldl (push true) names = [] := by
  obtain ⟨more, rfl⟩ := Nat.exists_eq_add_of_le beyond
  rw [← List.replicate_append_replicate, List.foldl_append,
    foldl_push_ups areNames true (Nat.le_refl _), List.drop_length, foldl_push_ups_root]

/-- Further steps up lead out of the start of a relative path. -/
theorem foldl_push_ups_relative {names : List Text} (areNames : ∀ name ∈ names, IsName name)
    {count : Nat} (beyond : names.length ≤ count) :
    (List.replicate count up).foldl (push false) names =
      List.replicate (count - names.length) up := by
  obtain ⟨more, rfl⟩ := Nat.exists_eq_add_of_le beyond
  rw [← List.replicate_append_replicate, List.foldl_append,
    foldl_push_ups areNames false (Nat.le_refl _), List.drop_length, Nat.add_sub_cancel_left]
  induction more with
  | zero => rfl
  | succ more ih =>
      rw [List.replicate_succ', List.foldl_append, ih (Nat.le_add_right _ _),
        ← List.replicate_succ']
      cases more with
      | zero => rfl
      | succ more => exact push_up_up false _

/-! ## Ways -/

/-- What walks lead to, the last component first: names, and below them steps up. -/
def IsWay (stack : List Text) : Prop :=
  ∃ names count, (∀ name ∈ names, IsName name) ∧ stack = names ++ List.replicate count up

theorem isWay_nil : IsWay [] := ⟨[], 0, by simp, rfl⟩

/-- One component more. -/
theorem IsWay.push {stack : List Text} (way : IsWay stack) {component : Text}
    (clean : '/' ∉ component) (rooted : Bool) : IsWay (push rooted stack component) := by
  obtain ⟨names, count, areNames, rfl⟩ := way
  by_cases name : IsName component
  · rw [push_name name]
    refine ⟨component :: names, count, ?_, rfl⟩
    intro other member
    rcases List.mem_cons.mp member with rfl | member
    · exact name
    · exact areNames other member
  · rcases (not_isName_iff clean).mp name with rfl | rfl | rfl
    · rw [push_empty]
      exact ⟨names, count, areNames, rfl⟩
    · rw [push_dot]
      exact ⟨names, count, areNames, rfl⟩
    · cases names with
      | cons last rest =>
          rw [List.cons_append, push_up_name (areNames last List.mem_cons_self)]
          exact ⟨rest, count, fun other member => areNames other (List.mem_cons_of_mem _ member),
            rfl⟩
      | nil =>
          cases count with
          | zero =>
              rw [List.replicate_zero, List.append_nil, push_up_nil]
              cases rooted
              · exact ⟨[], 1, by simp, rfl⟩
              · exact ⟨[], 0, by simp, rfl⟩
          | succ count =>
              rw [List.nil_append, List.replicate_succ, push_up_up]
              exact ⟨[], count + 2, by simp, rfl⟩

theorem IsWay.follow {stack : List Text} (way : IsWay stack) (rooted : Bool) (path : Text) :
    IsWay (follow rooted stack path) := by
  have clean : ∀ piece ∈ Text.splitOn '/' path, '/' ∉ piece :=
    fun _ member => Text.not_mem_of_mem_splitOn member
  unfold Path.follow
  generalize Text.splitOn '/' path = pieces at clean ⊢
  induction pieces generalizing stack with
  | nil => exact way
  | cons piece rest ih =>
      exact ih (way.push (clean piece List.mem_cons_self) rooted)
        fun other member => clean other (List.mem_cons_of_mem _ member)

theorem exists_way (path : Text) : ∃ count names, (∀ name ∈ names, IsName name) ∧
    components path = List.replicate count up ++ names := by
  obtain ⟨names, count, areNames, shape⟩ := isWay_nil.follow (isAbsolute path) path
  refine ⟨count, names.reverse, fun name member => areNames name (by simpa using member), ?_⟩
  rw [components_eq, shape]
  simp

/-- Walking along what a walk leads to is walking along what it went along. -/
private theorem foldl_push_reverse_push {way : List Text} (isWay : IsWay way) {component : Text}
    (clean : '/' ∉ component) (rooted : Bool) (stack : List Text) :
    (push false way component).reverse.foldl (push rooted) stack =
      push rooted (way.reverse.foldl (push rooted) stack) component := by
  by_cases name : IsName component
  · rw [push_name name, List.reverse_cons, List.foldl_append]
    rfl
  · rcases (not_isName_iff clean).mp name with rfl | rfl | rfl
    · simp
    · simp
    · obtain ⟨names, count, areNames, rfl⟩ := isWay
      cases names with
      | cons last rest =>
          have lastName := areNames last List.mem_cons_self
          rw [List.cons_append, push_up_name lastName, List.reverse_cons, List.foldl_append,
            List.foldl_cons, List.foldl_nil, push_name lastName, push_up_name lastName]
      | nil =>
          cases count with
          | zero => rfl
          | succ count =>
              rw [List.nil_append, List.replicate_succ, push_up_up, List.reverse_cons,
                List.foldl_append]
              rfl

theorem foldl_push_follow (rooted : Bool) (stack : List Text) (path : Text) :
    (follow false [] path).reverse.foldl (push rooted) stack = follow rooted stack path := by
  have clean : ∀ piece ∈ Text.splitOn '/' path, '/' ∉ piece :=
    fun _ member => Text.not_mem_of_mem_splitOn member
  have along : ∀ pieces : List Text, (∀ piece ∈ pieces, '/' ∉ piece) → ∀ way, IsWay way →
      (pieces.foldl (push false) way).reverse.foldl (push rooted) stack =
        pieces.foldl (push rooted) (way.reverse.foldl (push rooted) stack) := by
    intro pieces
    induction pieces with
    | nil => intro _ _ _; rfl
    | cons piece rest ih =>
        intro clean way isWay
        have cleanPiece := clean piece List.mem_cons_self
        rw [List.foldl_cons, List.foldl_cons,
          ih (fun other member => clean other (List.mem_cons_of_mem _ member)) _
            (isWay.push cleanPiece false),
          foldl_push_reverse_push isWay cleanPiece]
  exact along _ clean [] isWay_nil

/-- Where a relative path leads, told from its normal form. -/
theorem follow_of_components {path : Text} (relative : isAbsolute path = false) {count : Nat}
    {names : List Text} (areNames : ∀ name ∈ names, IsName name)
    (way : components path = List.replicate count up ++ names) (rooted : Bool)
    (stack : List Text) :
    follow rooted stack path =
      names.reverse ++ (List.replicate count up).foldl (push rooted) stack := by
  rw [components_eq, relative] at way
  rw [← foldl_push_follow, way, List.foldl_append, foldl_push_names areNames]

end Companion.Path
