import Companion.Proofs.Path.Normal

/-!
# Walks from one directory below

The same relative path walked from a directory and from an entry of that directory. The steps up of
the path decide whether the second walk leads one directory deeper than the first one, and the names
behind them whether it leads to the entry of the same name.
-/

set_option autoImplicit false

namespace Companion.Path

variable {rooted : Bool} {top : Text} {names : List Text}

/-- Nothing but names stands above a name. -/
theorem IsWay.isName_head {head next : Text} {rest : List Text} (way : IsWay (head :: next :: rest))
    (name : IsName next) : IsName head := by
  obtain ⟨names, count, areNames, shape⟩ := way
  cases names with
  | cons first more =>
      obtain ⟨rfl, _⟩ := List.cons_eq_cons.mp shape
      exact areNames head List.mem_cons_self
  | nil =>
      have isUp : next ∈ List.replicate count up := by
        rw [List.nil_append] at shape
        exact shape ▸ List.mem_cons_of_mem _ List.mem_cons_self
      exact absurd (List.eq_of_mem_replicate isUp) name.2.2.1

/-- Steps up that leave names only: from one directory below they leave one name more, the one they
stop in front of, unless they lead to the root. -/
theorem foldl_push_ups_below (areNames : ∀ name ∈ top :: names, IsName name) {count : Nat}
    (leavesNames : ∀ name ∈ (List.replicate count up).foldl (push rooted) names, IsName name) :
    (∃ next, (top :: names)[count]? = some next ∧
        (List.replicate count up).foldl (push rooted) (top :: names) =
          next :: (List.replicate count up).foldl (push rooted) names) ∨
      ((top :: names)[count]? = none ∧
        (List.replicate count up).foldl (push rooted) names = [] ∧
        (List.replicate count up).foldl (push rooted) (top :: names) = []) := by
  have others : ∀ name ∈ names, IsName name := fun name member =>
    areNames name (List.mem_cons_of_mem _ member)
  rcases Nat.lt_or_ge names.length count with beyond | within
  · have passed : (top :: names).length ≤ count := beyond
    have missing : (top :: names)[count]? = none := List.getElem?_eq_none passed
    cases rooted with
    | true =>
        exact .inr ⟨missing, foldl_push_ups_rooted others (Nat.le_of_lt beyond),
          foldl_push_ups_rooted areNames passed⟩
    | false =>
        -- the steps beyond the start are kept, so that not only names are left
        have left := foldl_push_ups_relative others (Nat.le_of_lt beyond)
        have member : up ∈ List.replicate (count - names.length) up :=
          List.mem_replicate.mpr ⟨by omega, rfl⟩
        exact absurd rfl (leavesNames up (left ▸ member)).2.2.1
  · have below : count < (top :: names).length := Nat.lt_succ_of_le within
    refine .inl ⟨(top :: names)[count], List.getElem?_eq_getElem below, ?_⟩
    rw [foldl_push_ups areNames rooted (Nat.le_of_lt below), foldl_push_ups others rooted within,
      List.drop_eq_getElem_cons below]
    rfl

/-- A list that stays the same when its first member is moved to its end has equal members. -/
private theorem concat_eq_cons_iff {α : Type} (members : List α) (last first : α) :
    members ++ [last] = first :: members ↔ (∀ other ∈ members, other = first) ∧ last = first := by
  induction members generalizing first with
  | nil => simp
  | cons member rest ih =>
      rw [List.cons_append, List.cons_eq_cons, ih]
      constructor
      · rintro ⟨rfl, same, lastSame⟩
        exact ⟨fun other inside => (List.mem_cons.mp inside).elim id (same other), lastSame⟩
      · rintro ⟨same, rfl⟩
        obtain rfl := same member List.mem_cons_self
        exact ⟨rfl, fun other inside => same other (List.mem_cons_of_mem _ inside), rfl⟩

/-- When a path leads from a directory to a place, it leads from the entry `top` of that directory
to the entry `top` of that place just if it enters nothing but entries called `top` and its steps
up stop below one. -/
theorem follow_below_iff (areNames : ∀ name ∈ top :: names, IsName name) {path : Text}
    (relative : isAbsolute path = false) {count : Nat} {entered : List Text}
    (enteredNames : ∀ name ∈ entered, IsName name)
    (way : components path = List.replicate count up ++ entered) {rest : List Text}
    (restNames : ∀ name ∈ rest, IsName name) (leads : follow rooted names path = rest) :
    follow rooted (top :: names) path = top :: rest ↔
      (∀ name ∈ entered, name = top) ∧ (top :: names)[count]? = some top := by
  subst leads
  rw [follow_of_components relative enteredNames way] at restNames ⊢
  rw [follow_of_components relative enteredNames way]
  have leavesNames := fun name member => restNames name (List.mem_append_right _ member)
  rcases foldl_push_ups_below areNames leavesNames with
    ⟨next, found, deeper⟩ | ⟨missing, left, deeper⟩
  · rw [deeper, found, List.append_cons, ← List.cons_append, List.append_cancel_right_eq,
      concat_eq_cons_iff]
    simp
  · rw [deeper, left, missing]
    constructor
    · intro same
      simpa using congrArg List.length same
    · intro enters
      simp at enters

/-- A path whose walk ends in a name does not lead, from one directory below, to a place below the
entry `top` under another name. -/
theorem follow_below_ne (areNames : ∀ name ∈ top :: names, IsName name) {path : Text}
    (relative : isAbsolute path = false) {last other : Text} {rest : List Text}
    (lastName : IsName last) (restNames : ∀ name ∈ rest, IsName name)
    (leads : follow rooted names path = last :: rest) (renamed : last ≠ other)
    (apart : last ≠ top) : follow rooted (top :: names) path ≠ other :: top :: rest := by
  obtain ⟨count, entered, enteredNames, way⟩ := exists_way path
  rw [follow_of_components relative enteredNames way] at leads ⊢
  have allNames : ∀ name ∈ last :: rest, IsName name := by
    intro name member
    rcases List.mem_cons.mp member with rfl | member
    · exact lastName
    · exact restNames name member
  have leavesNames : ∀ name ∈ (List.replicate count up).foldl (push rooted) names, IsName name :=
    fun name member => allNames name (leads ▸ List.mem_append_right _ member)
  intro same
  cases reversed : entered.reverse with
  | cons first more =>
      rw [reversed, List.cons_append, List.cons_eq_cons] at leads same
      exact renamed (leads.1.symm.trans same.1)
  | nil =>
      rw [reversed, List.nil_append] at leads same
      rcases foldl_push_ups_below areNames leavesNames with ⟨next, _, deeper⟩ | ⟨_, left, _⟩
      · rw [deeper, leads] at same
        simp only [List.cons_eq_cons] at same
        exact apart same.2.1
      · rw [left] at leads
        cases leads

/-- A directory way and a last component, walked from a directory and, the component renamed, from
its entry `top`. -/
theorem push_follow_below_iff (areNames : ∀ name ∈ top :: names, IsName name) {way : Text}
    (relative : isAbsolute way = false) {count : Nat} {entered : List Text}
    (enteredNames : ∀ name ∈ entered, IsName name)
    (parts : components way = List.replicate count up ++ entered) {component renamed : Text}
    (clean : '/' ∉ renamed) (name : IsName component) {rest : List Text}
    (restNames : ∀ name ∈ rest, IsName name) {last : Text}
    (leads : push rooted (follow rooted names way) component = last :: rest) :
    push rooted (follow rooted (top :: names) way) renamed = renamed :: top :: rest ↔
      IsName renamed ∧ (∀ name ∈ entered, name = top) ∧ (top :: names)[count]? = some top := by
  have topName := areNames top List.mem_cons_self
  rw [push_name name, List.cons_eq_cons] at leads
  rw [← follow_below_iff areNames relative enteredNames parts restNames leads.2]
  constructor
  · intro same
    have isWay : IsWay (top :: names) := ⟨top :: names, 0, areNames, by simp⟩
    have shape := (isWay.follow rooted way).push clean rooted
    rw [same] at shape
    have renamedName := shape.isName_head topName
    rw [push_name renamedName, List.cons_eq_cons] at same
    exact ⟨renamedName, same.2⟩
  · rintro ⟨renamedName, same⟩
    rw [push_name renamedName, same]

end Companion.Path
