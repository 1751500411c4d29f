import Companion.Proofs.Files.Memory
import Companion.Proofs.Path.Place
import Companion.Proofs.Text.Order

/-!
# Files in memory as a tree

Files whose keys are plain paths form trees of names, one below the root and one below the working
directory. What listing a path gives and what a path is can be told from the place that the path
leads to.
-/

set_option autoImplicit false

namespace Companion.MemoryFiles

open Companion.Path

/-- All files are kept under plain paths. -/
def IsPlain (files : MemoryFiles) : Prop := ∀ key ∈ files.keys, Path.IsPlain key

/-- There is a file at a place. -/
def Holds (files : MemoryFiles) (rooted : Bool) (names : List Text) : Prop :=
  (∀ name ∈ names, IsName name) ∧ ofNames rooted names ∈ files.keys

/-- There is no file at a place but some file below it; the working directory needs none. -/
def IsDirectory (files : MemoryFiles) (rooted : Bool) (names : List Text) : Prop :=
  ¬ files.Holds rooted names ∧
    ((rooted = false ∧ names = []) ∨ ∃ name rest, files.Holds rooted (names ++ name :: rest))

theorem get?_isSome_iff {files : MemoryFiles} {key : Text} :
    (files.get? key).isSome = true ↔ key ∈ files.keys := by
  simp [get?, keys, List.lookup_isSome_iff]

variable {files : MemoryFiles} {path : Text} {rooted : Bool} {names : List Text}

/-! ## Ways down -/

private theorem directoryMark_eq (leads : LeadsTo path rooted names) (some : names ≠ []) :
    directoryMark (normalize path) = ofNames rooted names ++ ['/'] := by
  obtain ⟨front, c, different, shape⟩ := exists_ofNames_eq_concat rooted some leads.areNames
  rw [leads.normalize_eq some, directoryMark, shape, dropFinalSlashes_concat different]

theorem below?_eq_some_iff_append {directory key way : Text} (other : directory ≠ ['.']) :
    below? directory key = some way ↔ key = directoryMark directory ++ way := by
  rw [below?, if_neg other]
  dsimp only
  by_cases marked : key.startsWith (directoryMark directory) = true
  · rw [if_pos marked, Option.some.injEq]
    obtain ⟨rest, rfl⟩ := List.isPrefixOf_iff_prefix.mp marked
    rw [List.drop_left, List.append_cancel_left_eq]
  · rw [if_neg marked]
    constructor
    · intro none
      cases none
    · rintro rfl
      exact absurd (List.isPrefixOf_iff_prefix.mpr (List.prefix_append _ _)) marked

/-- Below the working directory are the paths that start neither at the root nor with a step up. -/
private theorem below?_dot_eq_some_iff {keyRooted : Bool} {keyNames : List Text}
    (someName : keyNames ≠ []) (areNames : ∀ name ∈ keyNames, IsName name) {way : Text} :
    below? ['.'] (ofNames keyRooted keyNames) = some way ↔
      keyRooted = false ∧ keyNames = Text.splitOn '/' way := by
  have areParts : ∀ part ∈ keyNames, IsPart part := fun part member => (areNames part member).isPart
  rw [below?, if_pos rfl]
  cases keyRooted with
  | true =>
      have absolute : (ofNames true keyNames).startsWith "/" = true := rfl
      rw [absolute]
      simp only [Bool.true_or, ↓reduceIte, reduceCtorEq, Bool.true_eq_false, false_and]
  | false =>
      have relative : (ofNames false keyNames).startsWith "/" = false := by
        have absolute : isAbsolute (ofNames false keyNames) = false := isAbsolute_ofNames areParts
        cases key : ofNames false keyNames with
        | nil => rfl
        | cons c rest =>
            have different : c ≠ '/' := by simpa [isAbsolute, key] using absolute
            exact Bool.and_eq_false_imp.mpr fun same => absurd (beq_iff_eq.mp same).symm different
      have inside : (ofNames false keyNames).startsWith "../" = false := by
        apply Bool.eq_false_iff.mpr
        intro climbs
        obtain ⟨rest, shape⟩ := List.isPrefixOf_iff_prefix.mp climbs
        have steps : keyNames = up :: Text.splitOn '/' rest :=
          (spelled_ofNames someName areParts).symm.trans
            ((congrArg spelled shape).symm.trans (Text.splitOn_append_separator up rest))
        exact (areNames up (steps ▸ List.mem_cons_self)).2.2.1 rfl
      rw [relative, inside]
      simp only [Bool.or_self, Bool.false_eq_true, ↓reduceIte, Option.some.injEq, true_and]
      constructor
      · rintro rfl
        exact (splitOn_join_names someName areNames).symm
      · rintro rfl
        exact Text.join_splitOn '/' way

private theorem ofNames_eq_slash_append_iff {keyRooted : Bool} {keyNames : List Text}
    (someName : keyNames ≠ []) (areParts : ∀ part ∈ keyNames, IsPart part) {way : Text} :
    ofNames keyRooted keyNames = '/' :: way ↔
      keyRooted = true ∧ keyNames = Text.splitOn '/' way := by
  constructor
  · intro same
    exact ⟨(isAbsolute_ofNames areParts).symm.trans (congrArg isAbsolute same),
      (spelled_ofNames someName areParts).symm.trans (congrArg spelled same)⟩
  · rintro ⟨rfl, rfl⟩
    rw [ofNames, Text.join_splitOn]
    rfl

private theorem ofNames_eq_append_slash_iff (someName : names ≠ [])
    (areParts : ∀ part ∈ names, IsPart part) {keyRooted : Bool} {keyNames : List Text}
    (someKeyName : keyNames ≠ []) (areKeyParts : ∀ part ∈ keyNames, IsPart part) {way : Text} :
    ofNames keyRooted keyNames = ofNames rooted names ++ '/' :: way ↔
      keyRooted = rooted ∧ keyNames = names ++ Text.splitOn '/' way := by
  constructor
  · intro same
    have someText : ofNames rooted names ≠ [] := by
      intro none
      have empty : spelled (ofNames rooted names) = names := spelled_ofNames someName areParts
      rw [none] at empty
      exact (areParts [] (empty ▸ List.mem_cons_self)).1 rfl
    constructor
    · have absolute := (isAbsolute_ofNames areKeyParts).symm.trans (congrArg isAbsolute same)
      rwa [isAbsolute_append someText, isAbsolute_ofNames areParts] at absolute
    · rw [← spelled_ofNames someKeyName areKeyParts, same,
        spelled_ofNames_append_slash someName areParts]
  · rintro ⟨rfl, rfl⟩
    rw [ofNames, Text.join_append someName (Text.splitOn_ne_nil '/' way), Text.join_splitOn]
    simp [ofNames]

/-- The way from a directory to a key is what the names of the key have behind those of the
directory. -/
theorem below?_eq_some_iff (leads : LeadsTo path rooted names) {keyRooted : Bool}
    {keyNames : List Text} (someName : keyNames ≠ []) (areNames : ∀ name ∈ keyNames, IsName name)
    {way : Text} :
    below? (normalize path) (ofNames keyRooted keyNames) = some way ↔
      keyRooted = rooted ∧ keyNames = names ++ Text.splitOn '/' way := by
  have areKeyParts : ∀ part ∈ keyNames, IsPart part :=
    fun part member => (areNames part member).isPart
  have areParts : ∀ part ∈ names, IsPart part :=
    fun part member => (leads.areNames part member).isPart
  by_cases none : names = []
  · subst none
    rw [leads.normalize_eq_of_nil]
    cases rooted with
    | true =>
        rw [if_pos rfl, below?_eq_some_iff_append (by simp)]
        exact ofNames_eq_slash_append_iff someName areKeyParts
    | false => exact below?_dot_eq_some_iff someName areNames
  · have notDot : normalize path ≠ ['.'] := fun dot =>
      none (leads.normalize_eq_dot_iff.mp dot).2
    rw [below?_eq_some_iff_append notDot, directoryMark_eq leads none, List.append_assoc]
    exact ofNames_eq_append_slash_iff none areParts someName areKeyParts

/-- A way down that is not empty, which it never is for a plain path. -/
theorem properlyBelow?_eq_some_iff (leads : LeadsTo path rooted names) {keyRooted : Bool}
    {keyNames : List Text} (someName : keyNames ≠ []) (areNames : ∀ name ∈ keyNames, IsName name)
    {way : Text} :
    properlyBelow? (normalize path) (ofNames keyRooted keyNames) = some way ↔
      keyRooted = rooted ∧ keyNames = names ++ Text.splitOn '/' way := by
  rw [← below?_eq_some_iff leads someName areNames, properlyBelow?]
  split
  · next found => rw [found]
  · next noWay =>
    constructor
    · intro none
      cases none
    · intro found
      cases way with
      | cons c rest => exact absurd found (noWay c rest)
      | nil =>
          obtain ⟨-, shape⟩ := (below?_eq_some_iff leads someName areNames).mp found
          have isEmpty : [] ∈ keyNames := by simp [shape]
          exact absurd rfl (areNames [] isEmpty).1

theorem IsPlain.ne_nil_of_holds (plain : files.IsPlain) (holds : files.Holds rooted names) :
    names ≠ [] := by
  rintro rfl
  have spelledNone := plain _ holds.2
  cases rooted <;> exact (spelledNone [] List.mem_cons_self).1 rfl

/-- The keys below a directory are those of the files at places behind it. -/
theorem exists_properlyBelow?_iff (plain : files.IsPlain) (leads : LeadsTo path rooted names)
    {way : Text} :
    (∃ key ∈ files.keys, properlyBelow? (normalize path) key = some way) ↔
      files.Holds rooted (names ++ Text.splitOn '/' way) := by
  constructor
  · rintro ⟨key, member, below⟩
    obtain ⟨keyRooted, keyNames, someName, areNames, rfl⟩ := isPlain_iff.mp (plain key member)
    obtain ⟨rfl, rfl⟩ := (properlyBelow?_eq_some_iff leads someName areNames).mp below
    exact ⟨areNames, member⟩
  · rintro ⟨areNames, member⟩
    refine ⟨_, member, (properlyBelow?_eq_some_iff leads ?_ areNames).mpr ⟨rfl, rfl⟩⟩
    simp [Text.splitOn_ne_nil]

/-! ## Entries -/

/-- The names that a directory lists are those that continue its own names to a file. -/
theorem mem_names_iff (plain : files.IsPlain) (leads : LeadsTo path rooted names) {name : Text} :
    name ∈ files.names (normalize path) ↔ ∃ rest, files.Holds rooted (names ++ name :: rest) := by
  have listed : name ∈ files.names (normalize path) ↔
      ∃ way, files.Holds rooted (names ++ Text.splitOn '/' way) ∧
        way.takeWhile (· ≠ '/') = name := by
    simp only [MemoryFiles.names, Text.mem_sortedDistinct, List.mem_map, List.mem_filterMap,
      exists_properlyBelow?_iff plain leads]
  rw [listed]
  constructor
  · rintro ⟨way, holds, rfl⟩
    obtain ⟨rest, shape⟩ := List.head?_eq_some_iff.mp (Text.head?_splitOn '/' way)
    exact ⟨rest, shape ▸ holds⟩
  · rintro ⟨rest, holds⟩
    have pieces := splitOn_join_names (List.cons_ne_nil name rest)
      fun part member => holds.1 part (List.mem_append_right _ member)
    have first := Text.head?_splitOn '/' (Text.join ['/'] (name :: rest))
    rw [pieces, List.head?_cons, Option.some.injEq] at first
    exact ⟨Text.join ['/'] (name :: rest), pieces.symm ▸ holds, first.symm⟩

theorem names_eq_nil_iff (plain : files.IsPlain) (leads : LeadsTo path rooted names) :
    files.names (normalize path) = [] ↔
      ¬ ∃ name rest, files.Holds rooted (names ++ name :: rest) := by
  simp only [List.eq_nil_iff_forall_not_mem, mem_names_iff plain leads, not_exists]

theorem normalize_mem_keys_iff (plain : files.IsPlain) (leads : LeadsTo path rooted names) :
    normalize path ∈ files.keys ↔ files.Holds rooted names := by
  by_cases none : names = []
  · subst none
    constructor
    · intro member
      have spelledNone := plain _ member
      rw [leads.normalize_eq_of_nil] at spelledNone
      cases rooted with
      | true => exact absurd rfl (spelledNone [] List.mem_cons_self).1
      | false => exact absurd rfl (spelledNone ['.'] List.mem_cons_self).2.1
    · intro holds
      exact absurd rfl (plain.ne_nil_of_holds holds)
  · rw [leads.normalize_eq none]
    exact ⟨fun member => ⟨leads.areNames, member⟩, fun holds => holds.2⟩

/-! ## What a path is -/

theorem contains_iff (plain : files.IsPlain) (leads : LeadsTo path rooted names) :
    files.contains path = true ↔ files.Holds rooted names := by
  rw [contains, get?_isSome_iff, normalize_mem_keys_iff plain leads]

theorem stat_of_holds (plain : files.IsPlain) (leads : LeadsTo path rooted names)
    (holds : files.Holds rooted names) : files.stat path = .ok { isFile := true } := by
  rw [stat, if_pos (get?_isSome_iff.mpr ((normalize_mem_keys_iff plain leads).mpr holds))]

theorem stat_of_isDirectory (plain : files.IsPlain) (leads : LeadsTo path rooted names)
    (directory : files.IsDirectory rooted names) :
    files.stat path = .ok { isDirectory := true } := by
  obtain ⟨noFile, isDirectory⟩ := directory
  have absent : ¬ (files.get? (normalize path)).isSome = true :=
    fun there => noFile ((normalize_mem_keys_iff plain leads).mp (get?_isSome_iff.mp there))
  rw [stat, if_neg absent, if_pos]
  rw [Bool.or_eq_true, decide_eq_true_eq, leads.normalize_eq_dot_iff, List.any_eq_true]
  refine isDirectory.imp id ?_
  rintro ⟨name, rest, holds⟩
  have pieces := splitOn_join_names (List.cons_ne_nil name rest)
    fun part member => holds.1 part (List.mem_append_right _ member)
  obtain ⟨key, member, below⟩ := (exists_properlyBelow?_iff plain leads).mpr (pieces.symm ▸ holds)
  exact ⟨key, member, Option.isSome_of_eq_some below⟩

/-- A path can be listed just if it leads to a directory. -/
theorem list_eq (plain : files.IsPlain) (leads : LeadsTo path rooted names) :
    (files.IsDirectory rooted names ∧
        files.list path = .ok ((files.names (normalize path)).map (join path))) ∨
      (¬ files.IsDirectory rooted names ∧ files.list path = .error (.fileNotFound path)) := by
  have condition : ((files.get? (normalize path)).isSome ||
      ((files.names (normalize path)).isEmpty && decide (normalize path ≠ ['.']))) = true ↔
        ¬ files.IsDirectory rooted names := by
    rw [Bool.or_eq_true, get?_isSome_iff, normalize_mem_keys_iff plain leads, Bool.and_eq_true,
      List.isEmpty_iff, names_eq_nil_iff plain leads, decide_eq_true_eq, ne_eq,
      leads.normalize_eq_dot_iff]
    constructor
    · rintro (holds | ⟨nothing, named⟩) ⟨noFile, isDirectory⟩
      · exact noFile holds
      · exact isDirectory.elim named nothing
    · intro other
      by_cases holds : files.Holds rooted names
      · exact .inl holds
      · exact .inr (not_or.mp fun isDirectory => other ⟨holds, isDirectory⟩).symm
  rw [list]
  by_cases directory : files.IsDirectory rooted names
  · exact .inl ⟨directory, if_neg fun fails => condition.mp fails directory⟩
  · exact .inr ⟨directory, if_pos (condition.mpr directory)⟩

/-! ## Files above files -/

/-- The file that one path names would be a directory on the way to the file that another one
names. -/
def IsAncestor (above path : Text) : Prop :=
  (properlyBelow? (normalize above) (normalize path)).isSome = true

instance (above path : Text) : Decidable (IsAncestor above path) :=
  inferInstanceAs (Decidable (_ = true))

theorem isAncestor_of_leadsTo {above : Text} (someName : names ≠ []) {rest : List Text}
    (normal : normalize above = ofNames rooted names) (someRest : rest ≠ [])
    (leads : LeadsTo path rooted (names ++ rest)) : IsAncestor above path := by
  have areNames : ∀ name ∈ names, IsName name :=
    fun name member => leads.areNames name (List.mem_append_left _ member)
  have pieces := splitOn_join_names someRest
    fun part member => leads.areNames part (List.mem_append_right _ member)
  have someWhole : names ++ rest ≠ [] := by simp [someName]
  have below : properlyBelow? (normalize (ofNames rooted names)) (ofNames rooted (names ++ rest)) =
      some (Text.join ['/'] rest) :=
    (properlyBelow?_eq_some_iff (leadsTo_ofNames rooted areNames) someWhole leads.areNames).mpr
      ⟨rfl, congrArg (names ++ ·) pieces.symm⟩
  rw [normalize_ofNames someName areNames] at below
  rw [IsAncestor, normal, leads.normalize_eq someWhole, below]
  rfl

/-! ## Written files -/

variable {texts : List (Text × Text)}

theorem IsPlain.writeTexts (plain : files.IsPlain)
    (targets : ∀ target ∈ texts.map (·.1), Path.IsPlain (normalize target)) :
    (files.writeTexts texts).IsPlain := by
  intro key member
  rcases mem_keys_writeTexts.mp member with before | ⟨target, isTarget, rfl⟩
  · exact plain key before
  · exact targets target isTarget

theorem Holds.writeTexts (holds : files.Holds rooted names) :
    (files.writeTexts texts).Holds rooted names :=
  ⟨holds.1, mem_keys_writeTexts.mpr (.inl holds.2)⟩

/-- A file is there after writing if it was there or has been written. -/
theorem Holds.of_writeTexts (holds : (files.writeTexts texts).Holds rooted names) :
    files.Holds rooted names ∨
      ∃ target ∈ texts.map (·.1), normalize target = ofNames rooted names :=
  (mem_keys_writeTexts.mp holds.2).imp (fun before => ⟨holds.1, before⟩) id

theorem IsDirectory.of_holds_imp {others : MemoryFiles} (directory : files.IsDirectory rooted names)
    (noFile : ¬ others.Holds rooted names)
    (grows : ∀ {names : List Text}, files.Holds rooted names → others.Holds rooted names) :
    others.IsDirectory rooted names :=
  ⟨noFile, directory.2.imp id fun ⟨name, rest, holds⟩ => ⟨name, rest, grows holds⟩⟩

end Companion.MemoryFiles
