import Companion.Proofs.Config.Relocation
import Companion.Proofs.Path.Below
import Companion.Specifier

/-!
# Specifiers of companions

The file that a relative specifier denotes, and when the specifier of a module, relocated on its
own, denotes the relocated file of the module.
-/

set_option autoImplicit false

namespace Companion.Specifier

/-- The module file that a relative specifier in the imports of a file denotes. -/
def denoted (file specifier : Text) : Text :=
  Path.normalize (Path.join (Path.directory file) specifier) ++ ".ts"

/-- Whether a specifier is relative to the importing file. -/
def IsRelative (specifier : Text) : Prop :=
  Text.startsWith specifier "./" = true ∨ Text.startsWith specifier "../" = true

instance (specifier : Text) : Decidable (IsRelative specifier) :=
  inferInstanceAs (Decidable (_ ∨ _))

/-- A specifier in the imports of a file that leads from the subdirectory of the file to the
subdirectory of the same name beside the module it denotes. -/
structure LeadsToSubdirectory (subdirectory file specifier : Text) : Prop where
  /-- It ends in a name, and in one that is left when it is renamed. -/
  ends : Path.IsName (Path.base specifier) ∧
    Path.IsName ((Relocation.usual none).renameBase (Path.base specifier))
  /-- It enters only directories called as the subdirectory. -/
  enters : ∀ name ∈ Path.components (Path.directory specifier),
    name ≠ Path.up → name = subdirectory
  /-- Its steps up stop below a directory called as the subdirectory. -/
  stops : (Path.components (Path.directory file)).reverse[
    (Path.components (Path.directory specifier)).count Path.up]? = some subdirectory

instance (subdirectory file specifier : Text) :
    Decidable (LeadsToSubdirectory subdirectory file specifier) :=
  decidable_of_iff (_ ∧ _ ∧ _) ⟨fun ⟨ends, enters, stops⟩ => ⟨ends, enters, stops⟩,
    fun leads => ⟨leads.ends, leads.enters, leads.stops⟩⟩

theorem IsRelative.isAbsolute_eq_false {specifier : Text} (relative : IsRelative specifier) :
    Path.isAbsolute specifier = false := by
  cases specifier with
  | nil => rfl
  | cons c rest =>
      have opening : c = '.' := by
        rcases relative with here | above
        · exact (List.cons_prefix_cons.mp (List.isPrefixOf_iff_prefix.mp here)).1.symm
        · exact (List.cons_prefix_cons.mp (List.isPrefixOf_iff_prefix.mp above)).1.symm
      simp [Path.isAbsolute, opening]

/-- What a specifier denotes is told by the walk along it. -/
theorem denoted_eq_ofNames_iff {rooted otherRooted : Bool} {names targets : List Text}
    {file last specifier : Text} (areNames : ∀ name ∈ names, Path.IsName name)
    (clean : '/' ∉ file) (relative : Path.isAbsolute specifier = false)
    (areParts : ∀ part ∈ targets ++ [last], Path.IsPart part)
    (apart : targets ≠ [] ∨ last ≠ ".ts".toList ∧ last ≠ '.' :: ".ts".toList) :
    denoted (Path.ofNames rooted (names ++ [file])) specifier =
        Path.ofNames otherRooted (targets ++ [last]) ↔
      rooted = otherRooted ∧ ∃ stem, last = stem ++ ".ts".toList ∧
        Path.follow rooted names.reverse specifier = stem :: targets.reverse := by
  have parts : ∀ name ∈ names, Path.IsPart name := fun name member => (areNames name member).isPart
  have root : Path.rootSlashes (Path.join (Path.ofNames rooted names) specifier) =
      if rooted then ['/'] else [] := by
    rw [Path.rootSlashes_join relative, Path.rootSlashes_ofNames parts]
  have walked : Path.components (Path.join (Path.ofNames rooted names) specifier) =
      (Path.follow rooted names.reverse specifier).reverse := by
    rw [Path.components_join relative, Path.isAbsolute_ofNames parts,
      Path.components_ofNames areNames]
  have endingIsPart : Path.IsPart ".ts".toList := ⟨by decide, by decide⟩
  rw [denoted, Path.directory_ofNames areNames clean,
    Path.normalize_append_eq_ofNames_iff root endingIsPart areParts apart, walked]
  simp only [List.reverse_eq_iff, List.reverse_append, List.reverse_cons, List.reverse_nil,
    List.nil_append, List.singleton_append]

/-! ## Relocated specifiers -/

section Renaming

variable {relocation : Relocation} (renames : relocation.RenamesFiles)

include renames

theorem IsRelative.relocated {specifier : Text} (relative : IsRelative specifier) :
    Path.isAbsolute (relocation.apply specifier) = false := by
  have clean : '/' ∉ relocation.renameBase (Path.base specifier) :=
    renames.bringsNoSlash.not_mem_renameBase (Path.not_mem_base specifier)
  rw [renames.apply_eq, Path.isAbsolute_join (Path.isAbsolute_of_not_mem clean),
    Path.isAbsolute_directory]
  exact relative.isAbsolute_eq_false

theorem follow_relocated (rooted : Bool) (stack : List Text) (specifier : Text) :
    Path.follow rooted stack (relocation.apply specifier) =
      Path.push rooted (Path.follow rooted stack (Path.directory specifier))
        (relocation.renameBase (Path.base specifier)) := by
  have clean : '/' ∉ relocation.renameBase (Path.base specifier) :=
    renames.bringsNoSlash.not_mem_renameBase (Path.not_mem_base specifier)
  rw [renames.apply_eq, Path.follow_join (Path.isAbsolute_of_not_mem clean),
    Path.follow_eq_push clean]

end Renaming

/-- The file that a specifier denotes when the walk along it ends in a component. -/
theorem denoted_of_follow_eq {rooted : Bool} {names rest : List Text} {file last specifier : Text}
    (areNames : ∀ name ∈ names, Path.IsName name) (clean : '/' ∉ file)
    (relative : Path.isAbsolute specifier = false)
    (walk : Path.follow rooted names.reverse specifier = last :: rest) :
    denoted (Path.ofNames rooted (names ++ [file])) specifier =
        Path.ofNames rooted (rest.reverse ++ [last ++ ".ts".toList]) ∧
      ∀ part ∈ rest.reverse ++ [last], Path.IsPart part := by
  have areParts : ∀ part ∈ names, Path.IsPart part := fun part member => (areNames part member).isPart
  have root : Path.rootSlashes (Path.join (Path.ofNames rooted names) specifier) =
      if rooted then ['/'] else [] := by
    rw [Path.rootSlashes_join relative, Path.rootSlashes_ofNames areParts]
  have walked : Path.components (Path.join (Path.ofNames rooted names) specifier) =
      rest.reverse ++ [last] := by
    rw [Path.components_join relative, Path.isAbsolute_ofNames areParts,
      Path.components_ofNames areNames, walk, List.reverse_cons]
  have someComponent : Path.components (Path.join (Path.ofNames rooted names) specifier) ≠ [] := by
    simp [walked]
  constructor
  · rw [denoted, Path.directory_ofNames areNames clean,
      Path.normalize_eq_ofNames root someComponent, walked]
    exact (Path.ofNames_append_last last ".ts".toList).symm
  · intro part member
    rw [← walked] at member
    exact Path.isPart_of_mem_components member

/-- A renamed specifier leads from the renamed file of the importing module to the renamed file of
the module that the specifier denotes, as long as it still ends in a name. -/
theorem denoted_renamed {relocation : Relocation} (renames : relocation.RenamesFiles)
    {module imported specifier : Text} (isModule : Path.IsTypeScriptFile module)
    (isImported : Path.IsPlain imported) (relative : IsRelative specifier)
    (denotes : denoted module specifier = imported)
    (named : Path.IsName (relocation.renameBase (Path.base specifier))) :
    denoted (relocation.apply module) (relocation.apply specifier) =
      Path.normalize (relocation.apply imported) := by
  obtain ⟨rooted, names, stem, areNames, clean, rfl⟩ := isModule.exists_ofNames
  have cleanFile : '/' ∉ stem ++ ".ts".toList := (Path.isName_append_ts clean).2.2.2
  have cleanRenamed : '/' ∉ relocation.renameBase stem ++ ".ts".toList :=
    (Path.isName_append_ts (renames.bringsNoSlash.not_mem_renameBase clean)).2.2.2
  have cleanBase : '/' ∉ Path.base specifier := Path.not_mem_base specifier
  -- what is no name would have stayed and would be no name now
  have baseName : Path.IsName (Path.base specifier) := by
    by_contra noName
    rw [renames.renameBase_of_not_isName cleanBase noName] at named
    exact noName named
  have walk := Path.follow_eq_push_base rooted names.reverse specifier
  rw [Path.push_name baseName] at walk
  have renamedWalk := follow_relocated renames rooted names.reverse specifier
  rw [Path.push_name named] at renamedWalk
  generalize Path.follow rooted names.reverse (Path.directory specifier) = stack at walk renamedWalk
  obtain ⟨place, areParts⟩ :=
    denoted_of_follow_eq areNames cleanFile relative.isAbsolute_eq_false walk
  have isPlace : imported =
      Path.ofNames rooted (stack.reverse ++ [Path.base specifier ++ ".ts".toList]) :=
    denotes.symm.trans place
  subst isPlace
  have allParts : ∀ part ∈ stack.reverse ++ [Path.base specifier ++ ".ts".toList],
      Path.IsPart part := by
    intro part member
    rcases List.mem_append.mp member with inside | isLast
    · exact areParts part (List.mem_append_left _ inside)
    · rw [List.mem_singleton.mp isLast]
      exact (Path.isName_append_ts cleanBase).isPart
  have directoryNames : ∀ name ∈ stack.reverse, Path.IsName name := by
    intro name member
    apply isImported name
    rw [Path.spelled_ofNames (by simp) allParts]
    exact List.mem_append_left _ member
  have companionNames := Path.areNames_concat directoryNames
    (Path.isName_append_ts (renames.bringsNoSlash.not_mem_renameBase cleanBase))
  rw [renames.apply_ofNames areNames clean, renames.apply_ofNames directoryNames cleanBase,
    Path.normalize_ofNames (by simp) companionNames]
  exact (denoted_of_follow_eq areNames cleanRenamed (relative.relocated renames) renamedWalk).1

/-- Whether a specifier leads from subdirectory to subdirectory, told by its steps up and by the
directories that it enters. -/
theorem leadsToSubdirectory_iff {rooted : Bool} {subdirectory file specifier : Text}
    {names entered : List Text} {count : Nat}
    (directoryNames : ∀ name ∈ names ++ [subdirectory], Path.IsName name) (clean : '/' ∉ file)
    (enteredNames : ∀ name ∈ entered, Path.IsName name)
    (way : Path.components (Path.directory specifier) =
      List.replicate count Path.up ++ entered) :
    LeadsToSubdirectory subdirectory (Path.ofNames rooted (names ++ [subdirectory] ++ [file]))
        specifier ↔
      (Path.IsName (Path.base specifier) ∧
        Path.IsName ((Relocation.usual none).renameBase (Path.base specifier))) ∧
      (∀ name ∈ entered, name = subdirectory) ∧
        (subdirectory :: names.reverse)[count]? = some subdirectory := by
  have directory : (Path.components
      (Path.directory (Path.ofNames rooted (names ++ [subdirectory] ++ [file])))).reverse =
        subdirectory :: names.reverse := by
    rw [Path.directory_ofNames directoryNames clean, Path.components_ofNames directoryNames]
    simp
  have counted : (Path.components (Path.directory specifier)).count Path.up = count := by
    have absent : Path.up ∉ entered := fun member => (enteredNames _ member).2.2.1 rfl
    rw [way, List.count_append, List.count_replicate_self, List.count_eq_zero.mpr absent]
    rfl
  have enters : (∀ name ∈ Path.components (Path.directory specifier),
      name ≠ Path.up → name = subdirectory) ↔ ∀ name ∈ entered, name = subdirectory := by
    rw [way]
    constructor
    · intro all name member
      exact all name (List.mem_append_right _ member) (enteredNames name member).2.2.1
    · intro all name member notUp
      rcases List.mem_append.mp member with isUp | isEntered
      · exact absurd (List.eq_of_mem_replicate isUp) notUp
      · exact all name isEntered
  constructor
  · rintro ⟨ends, entersOnly, stops⟩
    rw [directory, counted] at stops
    exact ⟨ends, enters.mp entersOnly, stops⟩
  · rintro ⟨ends, entersOnly, stops⟩
    exact ⟨ends, enters.mpr entersOnly, by rw [directory, counted, stops]⟩

/-- The walk along a relocated specifier from the subdirectory of a directory, given the walk along
the specifier itself from that directory. -/
theorem follow_relocated_iff {rooted : Bool} {subdirectory file : Text} {names targets : List Text}
    {stem specifier : Text} (directoryNames : ∀ name ∈ names ++ [subdirectory], Path.IsName name)
    (clean : '/' ∉ file) (areTargets : ∀ name ∈ targets, Path.IsName name)
    (ends : ".ppx".toList <:+ stem) (cleanStem : '/' ∉ stem)
    (other : ¬ ".ppx".toList <:+ subdirectory) (relative : IsRelative specifier)
    (leads : Path.follow rooted names.reverse specifier = stem :: targets.reverse) :
    Path.follow rooted (subdirectory :: names.reverse) ((Relocation.usual none).apply specifier) =
        Text.replaceAll ".ppx" [] stem :: subdirectory :: targets.reverse ↔
      LeadsToSubdirectory subdirectory (Path.ofNames rooted (names ++ [subdirectory] ++ [file]))
        specifier := by
  have stackNames : ∀ name ∈ subdirectory :: names.reverse, Path.IsName name := fun name member =>
    directoryNames name (by simpa [or_comm] using member)
  have targetNames : ∀ name ∈ targets.reverse, Path.IsName name := fun name member =>
    areTargets name (List.mem_reverse.mp member)
  have relativeDirectory : Path.isAbsolute (Path.directory specifier) = false :=
    (Path.isAbsolute_directory specifier).trans relative.isAbsolute_eq_false
  obtain ⟨count, entered, enteredNames, way⟩ := Path.exists_way (Path.directory specifier)
  rw [follow_relocated Relocation.usual_none_renamesFiles,
    leadsToSubdirectory_iff directoryNames clean enteredNames way]
  by_cases name : Path.IsName (Path.base specifier)
  · rw [Path.follow_eq_push_base] at leads
    have isStem : Path.base specifier = stem := by
      rw [Path.push_name name, List.cons_eq_cons] at leads
      exact leads.1
    have cleanRenamed := Text.not_mem_replaceAll_ppx (Path.not_mem_base specifier)
    rw [← isStem, Relocation.renameBase_usual,
      Path.push_follow_below_iff stackNames relativeDirectory enteredNames way cleanRenamed name
        targetNames leads]
    simp [name]
  · -- what is renamed is no name, hence stays, and the whole specifier is walked again
    have stemName := Path.isName_of_suffix_ppx ends cleanStem
    have apart : stem ≠ subdirectory := fun same => other (same ▸ ends)
    have elsewhere := Path.follow_below_ne stackNames relative.isAbsolute_eq_false stemName
      targetNames leads (Text.replaceAll_ppx_ne ends).symm apart
    rw [Relocation.usual_none_renamesFiles.renameBase_of_not_isName (Path.not_mem_base specifier) name,
      ← Path.follow_eq_push_base]
    constructor
    · intro same
      exact absurd same elsewhere
    · rintro ⟨⟨isName, _⟩, _⟩
      exact absurd isName name

/-- A relocated specifier leads from the subdirectory of an importing module to the subdirectory of
the module that the specifier denotes just if it meets directories called as the subdirectory only.
-/
theorem denoted_relocated_iff {subdirectory module imported specifier : Text}
    (isName : Path.IsName subdirectory) (other : ¬ ".ppx".toList <:+ subdirectory)
    (isModule : Path.IsModuleFile module) (isImported : Path.IsModuleFile imported)
    (relative : IsRelative specifier) (denotes : denoted module specifier = imported) :
    denoted ((Relocation.usual (some subdirectory)).apply module)
        ((Relocation.usual none).apply specifier) =
      Path.normalize ((Relocation.usual (some subdirectory)).apply imported) ↔
    LeadsToSubdirectory subdirectory ((Relocation.usual (some subdirectory)).apply module)
      specifier := by
  obtain ⟨rooted, names, stem, areNames, clean, _, rfl⟩ := isModule.exists_ofNames
  obtain ⟨otherRooted, targets, last, areTargets, cleanLast, ends, rfl⟩ := isImported.exists_ofNames
  have cleanFile := (Path.isName_append_ts clean).2.2.2
  have cleanRenamed := (Path.isName_append_ts (Text.not_mem_replaceAll_ppx clean)).2.2.2
  have lastFile : Path.IsName (last ++ ".ts".toList) := Path.isName_append_ts cleanLast
  have companion : Path.IsName (Text.replaceAll ".ppx" [] last ++ ".ts".toList) :=
    Path.isName_append_ts (Text.not_mem_replaceAll_ppx cleanLast)
  have directoryNames := Path.areNames_concat areNames isName
  have companionNames := Path.areNames_concat (Path.areNames_concat areTargets isName) companion
  have apart : targets ≠ [] ∨
      last ++ ".ts".toList ≠ ".ts".toList ∧ last ++ ".ts".toList ≠ '.' :: ".ts".toList := by
    have long : 3 < last.length := ends.length_le
    have longer : ∀ short : Text, short.length ≤ 4 → last ++ ".ts".toList ≠ short := by
      rintro short fits rfl
      rw [List.length_append] at fits
      exact absurd (Nat.le_trans (Nat.add_le_add_right long 3) fits) (by decide)
    exact .inr ⟨longer _ (by decide), longer _ (by decide)⟩
  have importedNames := Path.areNames_concat areTargets lastFile
  rw [denoted_eq_ofNames_iff areNames cleanFile relative.isAbsolute_eq_false
    (fun part member => (importedNames part member).isPart) apart] at denotes
  obtain ⟨rfl, leading, sameLast, leads⟩ := denotes
  obtain rfl : last = leading := List.append_cancel_right sameLast
  rw [Relocation.apply_usual_ofNames areNames isName clean,
    Relocation.apply_usual_ofNames areTargets isName cleanLast,
    Path.normalize_ofNames (by simp) companionNames,
    denoted_eq_ofNames_iff directoryNames cleanRenamed
      (relative.relocated Relocation.usual_none_renamesFiles)
      (fun part member => (companionNames part member).isPart)
      (.inl (by simp)),
    ← follow_relocated_iff directoryNames cleanRenamed areTargets ends cleanLast other relative
      leads]
  simp only [List.reverse_append, List.reverse_cons, List.reverse_nil, List.nil_append,
    List.singleton_append, true_and]
  constructor
  · rintro ⟨renamed, same, leadsThere⟩
    rw [leadsThere, List.append_cancel_right same]
  · intro leadsThere
    exact ⟨_, rfl, leadsThere⟩

end Companion.Specifier
