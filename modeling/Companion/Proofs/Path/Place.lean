import Companion.Proofs.Path.Forms

/-!
# Places

Where paths lead when no step up is left in them: to a list of names, entered from the root or from
the working directory. The place tells the normal form, and entering a name leads one name further,
however the path to the directory is spelled.
-/

set_option autoImplicit false

namespace Companion.Path

/-- A path leads to the entry that names lead to, from the root or from the working directory. -/
structure LeadsTo (path : Text) (rooted : Bool) (names : List Text) : Prop where
  opens : rootSlashes path = if rooted then ['/'] else []
  components : components path = names
  areNames : ∀ name ∈ names, IsName name

/-- No step up is left in the path, nor does it start with two slashes: the normal form is a plain
path, the working directory or the root. -/
def IsOrdinary (path : Text) : Prop := ∃ rooted names, LeadsTo path rooted names

/-- Continues a path by one name after the other. -/
def enter (path : Text) (names : List Text) : Text := names.foldl join path

@[simp] theorem enter_nil (path : Text) : enter path [] = path := rfl

@[simp] theorem enter_cons (path name : Text) (names : List Text) :
    enter path (name :: names) = enter (join path name) names := rfl

variable {path : Text} {rooted : Bool} {names others : List Text}

theorem LeadsTo.isAbsolute_eq (leads : LeadsTo path rooted names) : isAbsolute path = rooted := by
  have opens := leads.opens
  cases rootSlashes_cases path with
  | inl relative => cases rooted <;> simp_all
  | inr absolute => cases rooted <;> simp_all

/-- What neither starts with two slashes nor has a step up in its normal form is ordinary. -/
theorem isOrdinary_of_startsWith (single : path.startsWith "//" = false)
    (noStepUp : up ∉ components path) : IsOrdinary path := by
  have areNames : ∀ name ∈ components path, IsName name := by
    intro name member
    cases isName_or_eq_up member with
    | inl isName => exact isName
    | inr isUp => exact absurd (isUp ▸ member) noStepUp
  obtain ⟨-, opens⟩ | ⟨-, opens | opens⟩ := rootSlashes_cases path
  · exact ⟨false, _, opens, rfl, areNames⟩
  · exact ⟨true, _, opens, rfl, areNames⟩
  · rw [startsWith_of_rootSlashes opens] at single
    cases single

theorem leadsTo_ofNames (rooted : Bool) (areNames : ∀ name ∈ names, IsName name) :
    LeadsTo (ofNames rooted names) rooted names where
  opens := rootSlashes_ofNames fun name member => (areNames name member).isPart
  components := components_ofNames areNames
  areNames := areNames

theorem enter_ofNames (areNames : ∀ name ∈ names, IsName name)
    (areOthers : ∀ name ∈ others, IsName name) :
    enter (ofNames rooted names) others = ofNames rooted (names ++ others) := by
  induction others generalizing names with
  | nil => simp
  | cons name rest ih =>
      have isName : IsName name := areOthers name List.mem_cons_self
      rw [enter_cons, join_ofNames areNames isName,
        ih (areNames_concat areNames isName) fun other member =>
          areOthers other (List.mem_cons_of_mem _ member),
        List.append_assoc, List.singleton_append]

namespace LeadsTo

theorem join (leads : LeadsTo path rooted names) {name : Text} (isName : IsName name) :
    LeadsTo (join path name) rooted (names ++ [name]) where
  opens := (rootSlashes_join (isAbsolute_of_not_mem isName.2.2.2) path).trans leads.opens
  components := by
    rw [components_join (isAbsolute_of_not_mem isName.2.2.2), follow_eq_push isName.2.2.2,
      push_name isName, List.reverse_cons, List.reverse_reverse, leads.components]
  areNames := areNames_concat leads.areNames isName

theorem enter (leads : LeadsTo path rooted names) (areNames : ∀ name ∈ others, IsName name) :
    LeadsTo (enter path others) rooted (names ++ others) := by
  induction others generalizing path names with
  | nil => simpa using leads
  | cons name rest ih =>
      have next := ih (leads.join (areNames name List.mem_cons_self))
        fun other member => areNames other (List.mem_cons_of_mem _ member)
      rwa [List.append_assoc] at next

theorem normalize_eq (leads : LeadsTo path rooted names) (some : names ≠ []) :
    normalize path = ofNames rooted names := by
  rw [normalize_eq_ofNames leads.opens (leads.components.symm ▸ some), leads.components]

/-- The working directory and the root have normal forms of their own. -/
theorem normalize_eq_of_nil (leads : LeadsTo path rooted []) :
    normalize path = if rooted then ['/'] else ['.'] := by
  rw [normalize, leads.opens, leads.components]
  cases rooted <;> rfl

theorem normalize_eq_dot_iff (leads : LeadsTo path rooted names) :
    normalize path = ['.'] ↔ rooted = false ∧ names = [] := by
  constructor
  · intro dot
    by_cases none : names = []
    · subst none
      rw [leads.normalize_eq_of_nil] at dot
      cases rooted with
      | true => simp at dot
      | false => exact ⟨rfl, rfl⟩
    · rw [leads.normalize_eq none] at dot
      have areParts : ∀ part ∈ names, IsPart part :=
        fun part member => (leads.areNames part member).isPart
      have isDot := (spelled_ofNames none areParts).symm.trans (congrArg spelled dot)
      exact absurd rfl (leads.areNames ['.'] (isDot ▸ List.mem_cons_self)).2.1
  · rintro ⟨rfl, rfl⟩
    exact leads.normalize_eq_of_nil

end LeadsTo

/-- The normal form of a path leads to the same place. -/
theorem LeadsTo.normalize (leads : LeadsTo path rooted names) :
    LeadsTo (normalize path) rooted names where
  opens := (rootSlashes_normalize path).trans leads.opens
  components := (components_normalize path).trans leads.components
  areNames := leads.areNames

end Companion.Path
