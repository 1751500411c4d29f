import Companion.Config.Relocation
import Companion.Proofs.Path.Home
import Companion.Proofs.Text.Replace

/-!
# Relocated paths

A relocation changes the last component of a path and where the path leads before it. It is told how
relocations act on names and on the paths of modules: those that only rename and leave the ending of
a file alone, and the usual ones, which take `.ppx` out of the name.
-/

set_option autoImplicit false

namespace Companion.Text

/-! ## Names without `.ppx` -/

/-- The ending of a file stays. -/
theorem replaceAll_ppx_append (stem : Text) :
    replaceAll ".ppx" [] (stem ++ ".ts".toList) = replaceAll ".ppx" [] stem ++ ".ts".toList := by
  have absent : 'x' ∉ ".ts".toList := by decide
  have parts : ".ppx".toList = ".pp".toList ++ ['x'] := rfl
  rw [parts]
  exact replaceAll_append absent

theorem not_mem_replaceAll_ppx {c : Char} {stem : Text} (absent : c ∉ stem) :
    c ∉ replaceAll ".ppx" [] stem := by
  intro member
  rcases mem_replaceAll member with inNew | inStem
  · cases inNew
  · exact absent inStem

theorem replaceAll_ppx_ne {stem : Text} (ends : ".ppx".toList <:+ stem) :
    replaceAll ".ppx" [] stem ≠ stem := by
  intro same
  obtain ⟨front, rfl⟩ := ends
  have shorter : (replaceAll ".ppx" [] (front ++ ".ppx".toList)).length <
      (front ++ ".ppx".toList).length := length_replaceFrom_nil_lt (by decide) front
  rw [same] at shorter
  exact Nat.lt_irrefl _ shorter

end Companion.Text

namespace Companion.Path

/-! ## Module files -/

/-- What is no name has two characters at most. -/
theorem isName_of_length {component : Text} (long : 2 < component.length) (clean : '/' ∉ component) :
    IsName component := by
  refine ⟨?_, ?_, ?_, clean⟩ <;> rintro rfl <;> simp at long

theorem isName_append_ts {stem : Text} (clean : '/' ∉ stem) : IsName (stem ++ ".ts".toList) := by
  have long : 2 < (stem ++ ".ts".toList).length := by
    rw [List.length_append]
    exact Nat.lt_add_left _ (by decide)
  refine isName_of_length long ?_
  intro member
  rcases List.mem_append.mp member with inStem | inEnding
  · exact clean inStem
  · exact absurd inEnding (by decide)

theorem isName_of_suffix_ppx {stem : Text} (ends : ".ppx".toList <:+ stem) (clean : '/' ∉ stem) :
    IsName stem := by
  have long : 3 < stem.length := ends.length_le
  exact isName_of_length (Nat.lt_of_succ_lt long) clean

/-- A plain path with the ending of a module. -/
def IsTypeScriptFile (path : Text) : Prop := IsPlain path ∧ Text.endsWith path ".ts" = true

instance (path : Text) : Decidable (IsTypeScriptFile path) :=
  inferInstanceAs (Decidable (_ ∧ _))

/-- A plain path with the ending of an annotated module. -/
def IsModuleFile (path : Text) : Prop := IsPlain path ∧ Text.endsWith path ".ppx.ts" = true

instance (path : Text) : Decidable (IsModuleFile path) := inferInstanceAs (Decidable (_ ∧ _))

/-- An ending without slashes is an ending of the last component. -/
theorem suffix_last {rooted : Bool} {names : List Text} {last ending : Text} (clean : '/' ∉ ending)
    (isEnding : ending <:+ ofNames rooted (names ++ [last])) : ending <:+ last := by
  have parts : ∃ front, (front = [] ∨ front.getLast? = some '/') ∧
      ofNames rooted (names ++ [last]) = front ++ last := by
    by_cases none : names = []
    · refine ⟨ofNames rooted [], ?_, by rw [none, List.nil_append, ofNames_singleton]⟩
      cases rooted <;> simp [ofNames]
    · exact ⟨ofNames rooted names ++ ['/'], by simp, by rw [ofNames_concat none]; simp⟩
  obtain ⟨front, closed, shape⟩ := parts
  rw [shape] at isEnding
  rcases List.suffix_or_suffix_of_suffix isEnding (List.suffix_append front last) with
    inside | ⟨excess, rfl⟩
  · exact inside
  · obtain ⟨before, shape⟩ := isEnding
    rw [← List.append_assoc, List.append_cancel_right_eq] at shape
    subst shape
    rcases closed with none | slash
    · obtain rfl : excess = [] := (List.append_eq_nil_iff.mp none).2
      exact List.suffix_rfl
    · rcases List.eq_nil_or_concat excess with rfl | ⟨start, c, rfl⟩
      · exact List.suffix_rfl
      · obtain rfl : c = '/' := by simpa using slash
        simp at clean

theorem IsTypeScriptFile.exists_ofNames {path : Text} (isFile : IsTypeScriptFile path) :
    ∃ rooted names stem, (∀ name ∈ names, IsName name) ∧ '/' ∉ stem ∧
      path = ofNames rooted (names ++ [stem ++ ".ts".toList]) := by
  obtain ⟨plain, ends⟩ := isFile
  obtain ⟨rooted, all, some, areNames, rfl⟩ := isPlain_iff.mp plain
  obtain ⟨names, last, rfl⟩ := (List.eq_nil_or_concat all).resolve_left some
  rw [List.concat_eq_append] at areNames ends ⊢
  obtain ⟨stem, rfl⟩ := suffix_last (by decide) (List.isSuffixOf_iff_suffix.mp ends)
  have clean := (areNames _ (List.mem_append_right _ List.mem_cons_self)).2.2.2
  exact ⟨rooted, names, stem, fun name member => areNames name (List.mem_append_left _ member),
    fun member => clean (List.mem_append_left _ member), rfl⟩

theorem IsModuleFile.exists_ofNames {path : Text} (isModule : IsModuleFile path) :
    ∃ rooted names stem, (∀ name ∈ names, IsName name) ∧ '/' ∉ stem ∧ ".ppx".toList <:+ stem ∧
      path = ofNames rooted (names ++ [stem ++ ".ts".toList]) := by
  obtain ⟨plain, ends⟩ := isModule
  have isEnding : ".ppx.ts".toList <:+ path := List.isSuffixOf_iff_suffix.mp ends
  have isFile : IsTypeScriptFile path :=
    ⟨plain, List.isSuffixOf_iff_suffix.mpr ((List.suffix_append ".ppx".toList _).trans isEnding)⟩
  obtain ⟨rooted, names, stem, areNames, clean, rfl⟩ := isFile.exists_ofNames
  have inLast : ".ppx".toList ++ ".ts".toList <:+ stem ++ ".ts".toList :=
    suffix_last (by decide) isEnding
  exact ⟨rooted, names, stem, areNames, clean, List.suffix_append_self_iff.mp inLast, rfl⟩

end Companion.Path

namespace Companion.Relocation

/-- The two parts of a path are relocated on their own. -/
theorem apply_eq_join (relocation : Relocation) (path : Text) :
    relocation.apply path = Path.join (relocation.moveDirectory (Path.directory path))
      (relocation.renameBase (Path.base path)) := by
  rw [apply]
  cases moved : relocation.moveDirectory (Path.directory path) with
  | nil =>
      by_cases slash : (relocation.renameBase (Path.base path)).head? = some '/' <;>
        simp [Path.join, slash]
  | cons c rest => rfl

/-! ## Renaming -/

/-- No replacement brings a slash into a name. -/
def BringsNoSlash (relocation : Relocation) : Prop := ∀ pair ∈ relocation.replace, '/' ∉ pair.2

theorem BringsNoSlash.not_mem_renameBase {relocation : Relocation}
    (bringsNone : relocation.BringsNoSlash) {base : Text} (clean : '/' ∉ base) :
    '/' ∉ relocation.renameBase base := by
  unfold BringsNoSlash at bringsNone
  unfold renameBase
  generalize relocation.replace = pairs at bringsNone ⊢
  induction pairs generalizing base with
  | nil => exact clean
  | cons pair rest ih =>
      refine ih ?_ fun other member => bringsNone other (List.mem_cons_of_mem _ member)
      intro member
      rcases Text.mem_replaceAll member with inNew | inBase
      · exact bringsNone pair List.mem_cons_self inNew
      · exact clean inBase

/-- A relocation that leaves files in their directory or moves them below it. -/
structure StaysBelow (relocation : Relocation) : Prop where
  bringsNoSlash : relocation.BringsNoSlash
  below : ∀ subdirectory ∈ relocation.subdirectory, Path.IsRelativePlain subdirectory

/-- The directory of a file is moved by the same names, whichever it is. -/
theorem StaysBelow.exists_moveDirectory {relocation : Relocation} (stays : relocation.StaysBelow) :
    ∃ moved, (∀ name ∈ moved, Path.IsName name) ∧
      ∀ names, names ≠ [] → (∀ name ∈ names, Path.IsName name) →
        relocation.moveDirectory (Path.ofNames false names) = Path.ofNames false (names ++ moved) := by
  cases subdirectory : relocation.subdirectory with
  | none =>
      refine ⟨[], nofun, fun names _ _ => ?_⟩
      rw [moveDirectory, subdirectory, List.append_nil]
  | some path =>
      obtain ⟨moved, some, areMoved, rfl⟩ :=
        Path.isRelativePlain_iff.mp (stays.below path subdirectory)
      refine ⟨moved, areMoved, fun names someName areNames => ?_⟩
      rw [← Path.join_home_ofNames someName areNames some fun name member =>
        (areMoved name member).isPart]
      obtain ⟨front, c, -, shape⟩ := Path.exists_ofNames_eq_concat false some areMoved
      rw [moveDirectory, subdirectory]
      split
      · next same => rw [Option.some.inj same]
      · next noPath =>
        cases text : Path.ofNames false moved with
        | nil => simp [shape] at text
        | cons c rest => exact absurd (congrArg Option.some text) (noPath c rest)

/-- A file is renamed and its directory moved, by the same names wherever it is. -/
theorem StaysBelow.exists_apply {relocation : Relocation} (stays : relocation.StaysBelow) :
    ∃ moved, (∀ name ∈ moved, Path.IsName name) ∧
      ∀ names last, names ≠ [] → (∀ name ∈ names, Path.IsName name) → '/' ∉ last →
        '/' ∉ relocation.renameBase last ∧
          relocation.apply (Path.ofNames false (names ++ [last])) =
            Path.ofNames false (names ++ moved ++ [relocation.renameBase last]) := by
  obtain ⟨moved, areMoved, moves⟩ := stays.exists_moveDirectory
  refine ⟨moved, areMoved, fun names last someName areNames clean => ?_⟩
  have cleanRenamed := stays.bringsNoSlash.not_mem_renameBase clean
  have someMoved : names ++ moved ≠ [] := by simp [someName]
  refine ⟨cleanRenamed, ?_⟩
  rw [apply_eq_join, Path.directory_ofNames areNames clean, Path.base_ofNames clean,
    moves names someName areNames, Path.ofNames_concat someMoved]
  exact Path.join_home someMoved (List.forall_mem_append.mpr ⟨areNames, areMoved⟩)
    (Path.isAbsolute_of_not_mem cleanRenamed)

/-- A relocation that renames files where they are and finds nothing to replace in the ending of a
file, not even an occurrence that only ends there. -/
structure RenamesFiles (relocation : Relocation) : Prop where
  stays : relocation.subdirectory = none
  sparesEnding : ∀ pair ∈ relocation.replace, ∃ last, pair.1.getLast? = some last ∧
    last ∉ ".ts".toList
  bringsNoSlash : relocation.BringsNoSlash

namespace RenamesFiles

variable {relocation : Relocation}

theorem moveDirectory (renames : relocation.RenamesFiles) (directory : Text) :
    relocation.moveDirectory directory = directory := by
  rw [Relocation.moveDirectory, renames.stays]

/-- The ending of a file stays. -/
theorem renameBase_append (renames : relocation.RenamesFiles) (stem : Text) :
    relocation.renameBase (stem ++ ".ts".toList) =
      relocation.renameBase stem ++ ".ts".toList := by
  have spares := renames.sparesEnding
  unfold renameBase
  generalize relocation.replace = pairs at spares ⊢
  induction pairs generalizing stem with
  | nil => rfl
  | cons pair rest ih =>
      obtain ⟨last, ends, absent⟩ := spares pair List.mem_cons_self
      obtain ⟨opening, shape⟩ := List.getLast?_eq_some_iff.mp ends
      rw [List.foldl_cons, List.foldl_cons, shape, Text.replaceAll_append absent]
      exact ih _ fun other member => spares other (List.mem_cons_of_mem _ member)

/-- What is not a name stays when it is renamed. -/
theorem renameBase_of_not_isName (renames : relocation.RenamesFiles) {base : Text}
    (clean : '/' ∉ base) (noName : ¬ Path.IsName base) : relocation.renameBase base = base := by
  have dots : ∀ c ∈ base, c = '.' := by
    intro c member
    rcases (Path.not_isName_iff clean).mp noName with rfl | rfl | rfl <;> simp_all
  have spares := renames.sparesEnding
  unfold renameBase
  generalize relocation.replace = pairs at spares ⊢
  induction pairs with
  | nil => rfl
  | cons pair rest ih =>
      obtain ⟨last, ends, absent⟩ := spares pair List.mem_cons_self
      obtain ⟨opening, shape⟩ := List.getLast?_eq_some_iff.mp ends
      have notDot : last ∉ base := by
        intro member
        rw [dots last member] at absent
        exact absent (by decide)
      rw [List.foldl_cons, shape, Text.replaceAll_eq_self notDot]
      exact ih fun other member => spares other (List.mem_cons_of_mem _ member)

theorem apply_eq (renames : relocation.RenamesFiles) (path : Text) :
    relocation.apply path =
      Path.join (Path.directory path) (relocation.renameBase (Path.base path)) := by
  rw [apply_eq_join, renames.moveDirectory]

/-- A file is renamed in its directory. -/
theorem apply_ofNames (renames : relocation.RenamesFiles) {rooted : Bool} {names : List Text}
    {stem : Text} (areNames : ∀ name ∈ names, Path.IsName name) (clean : '/' ∉ stem) :
    relocation.apply (Path.ofNames rooted (names ++ [stem ++ ".ts".toList])) =
      Path.ofNames rooted (names ++ [relocation.renameBase stem ++ ".ts".toList]) := by
  have isFile : '/' ∉ stem ++ ".ts".toList := (Path.isName_append_ts clean).2.2.2
  have cleanRenamed : '/' ∉ relocation.renameBase stem :=
    renames.bringsNoSlash.not_mem_renameBase clean
  rw [renames.apply_eq, Path.directory_ofNames areNames isFile, Path.base_ofNames isFile,
    renames.renameBase_append]
  exact Path.join_ofNames areNames (Path.isName_append_ts cleanRenamed)

end RenamesFiles

/-- What takes `.ppx` out of the last component. -/
def usual (subdirectory : Option Text) : Relocation := { subdirectory := subdirectory }

variable {subdirectory : Option Text}

theorem usual_none_renamesFiles : (usual none).RenamesFiles where
  stays := rfl
  sparesEnding := by
    intro pair member
    obtain rfl := List.mem_singleton.mp member
    exact ⟨'x', rfl, by decide⟩
  bringsNoSlash := by
    intro pair member
    obtain rfl := List.mem_singleton.mp member
    exact List.not_mem_nil

@[simp] theorem renameBase_usual (base : Text) :
    (usual subdirectory).renameBase base = Text.replaceAll ".ppx" [] base := rfl

@[simp] theorem moveDirectory_usual_none (directory : Text) :
    (usual none).moveDirectory directory = directory := rfl

theorem moveDirectory_usual_some {name : Text} (notEmpty : name ≠ []) (directory : Text) :
    (usual (some name)).moveDirectory directory = Path.join directory name := by
  obtain ⟨c, rest, rfl⟩ := List.exists_cons_of_ne_nil notEmpty
  rfl

/-- A module's companions go into the subdirectory, under the renamed stem. -/
theorem apply_usual_ofNames {rooted : Bool} {names : List Text} {name stem : Text}
    (areNames : ∀ name ∈ names, Path.IsName name) (isName : Path.IsName name)
    (clean : '/' ∉ stem) :
    (usual (some name)).apply (Path.ofNames rooted (names ++ [stem ++ ".ts".toList])) =
      Path.ofNames rooted
        (names ++ [name] ++ [Text.replaceAll ".ppx" [] stem ++ ".ts".toList]) := by
  have isFile : '/' ∉ stem ++ ".ts".toList := (Path.isName_append_ts clean).2.2.2
  have below := Path.areNames_concat areNames isName
  rw [apply_eq_join, Path.directory_ofNames areNames isFile, Path.base_ofNames isFile,
    moveDirectory_usual_some isName.1, Path.join_ofNames areNames isName, renameBase_usual,
    Text.replaceAll_ppx_append]
  exact Path.join_ofNames below (Path.isName_append_ts (Text.not_mem_replaceAll_ppx clean))

end Companion.Relocation
