import Companion.Proofs.Path.Place
import Companion.Proofs.Path.Way
import Companion.Specifier

/-!
# Paths under another directory

What becomes of relative paths when all of them are put under one directory, their new home. The way
from one path to another one stays the same, and relocated paths are moved like all others.
-/

set_option autoImplicit false

namespace Companion.Path

/-- A relative path of names, at least one. -/
def IsRelativePlain (path : Text) : Prop := IsPlain path ∧ isAbsolute path = false

instance (path : Text) : Decidable (IsRelativePlain path) := inferInstanceAs (Decidable (_ ∧ _))

theorem isRelativePlain_iff {path : Text} : IsRelativePlain path ↔
    ∃ names, names ≠ [] ∧ (∀ name ∈ names, IsName name) ∧ path = ofNames false names := by
  constructor
  · intro relativePlain
    obtain ⟨plain, relative⟩ := relativePlain
    obtain ⟨rooted, names, some, areNames, rfl⟩ := isPlain_iff.mp plain
    rw [isAbsolute_ofNames fun name member => (areNames name member).isPart] at relative
    subst relative
    exact ⟨names, some, areNames, rfl⟩
  · intro found
    obtain ⟨names, some, areNames, rfl⟩ := found
    exact ⟨isPlain_iff.mpr ⟨false, names, some, areNames, rfl⟩,
      isAbsolute_ofNames fun name member => (areNames name member).isPart⟩

variable {home names : List Text}

theorem join_home (someHome : home ≠ []) (areHome : ∀ name ∈ home, IsName name) {path : Text}
    (relative : isAbsolute path = false) :
    join (ofNames false home) path = ofNames false home ++ '/' :: path := by
  obtain ⟨front, c, different, shape⟩ := exists_ofNames_eq_concat false someHome areHome
  rw [join_of_relative relative, shape, if_neg (by simp [different])]

theorem ofNames_append {others : List Text} (some : names ≠ []) (someOther : others ≠ []) :
    ofNames false (names ++ others) = ofNames false names ++ '/' :: ofNames false others := by
  simp [ofNames, Text.join_append some someOther]

theorem join_home_injective (someHome : home ≠ []) (areHome : ∀ name ∈ home, IsName name) :
    Function.Injective (join (ofNames false home)) := by
  have relativeHome : isAbsolute (ofNames false home) = false :=
    isAbsolute_ofNames fun name member => (areHome name member).isPart
  have someText : ofNames false home ≠ [] := by
    obtain ⟨front, c, -, shape⟩ := exists_ofNames_eq_concat false someHome areHome
    simp [shape]
  have absolute : ∀ path, isAbsolute path = true → join (ofNames false home) path = path := by
    intro path absolute
    rw [join, if_pos (by simpa [isAbsolute] using absolute)]
  have moved : ∀ path, isAbsolute path = false →
      isAbsolute (join (ofNames false home) path) = false := by
    intro path relative
    rw [join_home someHome areHome relative, isAbsolute_append someText, relativeHome]
  intro left right same
  cases leftRooted : isAbsolute left with
  | true =>
      cases rightRooted : isAbsolute right with
      | true => rwa [absolute left leftRooted, absolute right rightRooted] at same
      | false =>
          have relative := moved right rightRooted
          rw [← same, absolute left leftRooted, leftRooted] at relative
          cases relative
  | false =>
      cases rightRooted : isAbsolute right with
      | true =>
          have relative := moved left leftRooted
          rw [same, absolute right rightRooted, rightRooted] at relative
          cases relative
      | false =>
          rw [join_home someHome areHome leftRooted, join_home someHome areHome rightRooted,
            List.append_cancel_left_eq] at same
          exact List.tail_eq_of_cons_eq same

theorem join_home_ofNames (someHome : home ≠ []) (areHome : ∀ name ∈ home, IsName name)
    (some : names ≠ []) (areParts : ∀ part ∈ names, IsPart part) :
    join (ofNames false home) (ofNames false names) = ofNames false (home ++ names) := by
  rw [join_home someHome areHome (isAbsolute_ofNames areParts), ofNames_append someHome some]

theorem isAbsolute_ofNames_concat (some : names ≠ []) (areNames : ∀ name ∈ names, IsName name)
    (last : Text) : isAbsolute (ofNames false (names ++ [last])) = false := by
  have someText : ofNames false names ≠ [] := by
    obtain ⟨front, c, -, shape⟩ := exists_ofNames_eq_concat false some areNames
    simp [shape]
  rw [ofNames_concat some, isAbsolute_append someText]
  exact isAbsolute_ofNames fun name member => (areNames name member).isPart

/-- An entry of a directory is put behind the home, be it a name or not. -/
theorem join_home_concat (someHome : home ≠ []) (areHome : ∀ name ∈ home, IsName name)
    (some : names ≠ []) (areNames : ∀ name ∈ names, IsName name) (last : Text) :
    join (ofNames false home) (ofNames false (names ++ [last])) =
      ofNames false (home ++ names ++ [last]) := by
  rw [join_home someHome areHome (isAbsolute_ofNames_concat some areNames last),
    List.append_assoc, ofNames_append someHome (by simp)]

theorem LeadsTo.isAbsolute_eq_false {path : Text} (leads : LeadsTo path false names) :
    isAbsolute path = false :=
  leads.isAbsolute_eq

theorem leadsTo_join_home (areHome : ∀ name ∈ home, IsName name) {path : Text}
    (leads : LeadsTo path false names) :
    LeadsTo (join (ofNames false home) path) false (home ++ names) := by
  have relative := leads.isAbsolute_eq_false
  have homeLeads := leadsTo_ofNames false areHome
  refine ⟨(rootSlashes_join relative _).trans homeLeads.opens, ?_, ?_⟩
  · have steps : Path.components path = List.replicate 0 up ++ names := leads.components
    rw [components_join relative, homeLeads.components,
      follow_of_components relative leads.areNames steps]
    simp
  · exact List.forall_mem_append.mpr ⟨areHome, leads.areNames⟩

/-- A component behind names leads to a place, whatever it is. -/
theorem exists_leadsTo_ofNames (some : names ≠ []) (areNames : ∀ name ∈ names, IsName name)
    {last : Text} (clean : '/' ∉ last) :
    ∃ others, LeadsTo (ofNames false (names ++ [last])) false others := by
  have relative : isAbsolute (ofNames false (names ++ [last])) = false :=
    isAbsolute_ofNames_concat some areNames last
  have opens : rootSlashes (ofNames false (names ++ [last])) = [] := rootSlashes_of_relative relative
  have walked : components (ofNames false (names ++ [last])) =
      (push false names.reverse last).reverse := by
    rw [components_eq, relative, ofNames_concat some, follow_append_slash, follow_ofNames areNames,
      follow_eq_push clean, List.append_nil]
  by_cases isName : IsName last
  · exact ⟨names ++ [last], leadsTo_ofNames false (areNames_concat areNames isName)⟩
  · rcases (not_isName_iff clean).mp isName with rfl | rfl | rfl
    · exact ⟨names, opens, by simpa using walked, areNames⟩
    · exact ⟨names, opens, by simpa using walked, areNames⟩
    · obtain ⟨front, final, rfl⟩ := (List.eq_nil_or_concat names).resolve_left some
      rw [List.concat_eq_append] at areNames walked opens ⊢
      have finalName := areNames final (List.mem_append_right _ List.mem_cons_self)
      rw [List.reverse_append, List.reverse_singleton, List.singleton_append,
        push_up_name finalName, List.reverse_reverse] at walked
      exact ⟨front, opens, walked, fun name member => areNames name (List.mem_append_left _ member)⟩

/-! ## Ways -/

/-- A file imports its module by the same specifier wherever both are. -/
theorem relativeImport_home {directories : List Text} {module file : Text}
    (areHome : ∀ name ∈ home, IsName name) (areNames : ∀ name ∈ names ++ [module], IsName name)
    (some : directories ≠ []) (areDirectories : ∀ name ∈ directories, IsName name)
    (clean : '/' ∉ file) (working : Text) :
    Specifier.relativeImport working (ofNames false (home ++ (names ++ [module])))
        (ofNames false (home ++ (directories ++ [file]))) =
      Specifier.relativeImport working (ofNames false (names ++ [module]))
        (ofNames false (directories ++ [file])) := by
  have importing : ∀ names : List Text, names ≠ [] → (∀ name ∈ names, IsName name) →
      Specifier.importingDirectory (ofNames false (names ++ [file])) = ofNames false names := by
    intro names some areNames
    obtain ⟨front, c, -, shape⟩ := exists_ofNames_eq_concat false some areNames
    rw [Specifier.importingDirectory, directory_ofNames areNames clean, shape]
    simp
  have notEmpty : ∀ names : List Text, names ≠ [] → (∀ name ∈ names, IsName name) →
      (ofNames false names).isEmpty = false := by
    intro names some areNames
    obtain ⟨front, c, -, shape⟩ := exists_ofNames_eq_concat false some areNames
    rw [shape]
    simp
  have way : ∀ target start : List Text, (∀ name ∈ target, IsName name) →
      (∀ name ∈ start, IsName name) →
      relative working (ofNames false target) (ofNames false start) = wayTo target start := by
    intro target start areTarget areStart
    have targetLeads := leadsTo_ofNames false areTarget
    have startLeads := leadsTo_ofNames false areStart
    have sameKind := targetLeads.isAbsolute_eq.trans startLeads.isAbsolute_eq.symm
    rw [relative_eq_wayTo sameKind (by rwa [targetLeads.components])
      (by rwa [startLeads.components]), targetLeads.components, startLeads.components]
  have allNames := List.forall_mem_append.mpr ⟨areHome, areNames⟩
  have allDirectories := List.forall_mem_append.mpr ⟨areHome, areDirectories⟩
  rw [Specifier.relativeImport, Specifier.relativeImport, notEmpty _ (by simp) allNames,
    notEmpty _ (by simp) areNames, ← List.append_assoc home directories,
    importing _ (by simp [some]) allDirectories, importing _ some areDirectories,
    way _ _ allNames allDirectories, way _ _ areNames areDirectories, wayTo_append]

end Companion.Path
