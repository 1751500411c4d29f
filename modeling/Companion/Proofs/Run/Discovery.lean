import Companion.Proofs.Files.Descent
import Companion.Proofs.Run.Writing
import Companion.Proofs.Path.Home

/-!
# Discovery

Which modules are found below a root, said by the ways that lead to them: those to the stored files
that the pattern accepts and that no other file hides, in the lexicographic order of the names.
-/

set_option autoImplicit false

namespace Companion

namespace Path

variable {path rel : Text} {rooted : Bool} {names : List Text}

/-- Entering names one by one is joining the way they make up. -/
theorem enter_eq_join (some : names ≠ []) (areNames : ∀ name ∈ names, IsName name) :
    enter path names = join path (ofNames false names) := by
  induction names generalizing path with
  | nil => exact absurd rfl some
  | cons name rest ih =>
      have isName := areNames name List.mem_cons_self
      by_cases none : rest = []
      · subst none
        simp [ofNames]
      · have areOthers : ∀ other ∈ rest, IsName other :=
          fun other member => areNames other (List.mem_cons_of_mem _ member)
        have relative : isAbsolute (ofNames false rest) = false :=
          isAbsolute_ofNames fun other member => (areOthers other member).isPart
        have whole : ofNames false (name :: rest) = name ++ '/' :: ofNames false rest := by
          have parts := ofNames_append (List.cons_ne_nil name []) none
          rwa [List.singleton_append, ofNames_singleton] at parts
        have relativeWhole : isAbsolute (name ++ '/' :: ofNames false rest) = false :=
          (isAbsolute_append isName.1 _).trans (isAbsolute_of_not_mem isName.2.2.2)
        -- a name ends in no slash, so that one is put between it and the rest
        obtain ⟨front, c, different, shape⟩ :=
          exists_ofNames_eq_concat false (List.cons_ne_nil name []) (by simpa using isName)
        have last : name = front ++ [c] := by simpa [ofNames] using shape
        have unclosed : ∀ before : Text,
            ¬ (before ++ name = [] ∨ (before ++ name).getLast? = Option.some '/') := by
          intro before
          simp [last, different]
        rw [enter_cons, ih none areOthers, whole, join_of_relative relative,
          join_of_relative relativeWhole, join_of_relative (isAbsolute_of_not_mem isName.2.2.2)]
        split
        · rw [if_neg (unclosed path), List.append_assoc]
        · have behind := unclosed (path ++ ['/'])
          rw [List.append_assoc, List.singleton_append] at behind
          rw [if_neg behind, List.append_assoc, List.cons_append]

end Path

namespace MemoryFiles

open Companion.Path

/-- The way `rel` leads from a directory down to a stored file, and no other file stands on it. -/
structure IsVisible (files : MemoryFiles) (root rel : Text) : Prop where
  plain : Path.IsRelativePlain rel
  stored : files.contains (join root rel) = true
  free : ∀ first last, rel = first ++ '/' :: last → files.contains (join root first) = false

variable {files : MemoryFiles} {root : Text} {rooted : Bool} {names track : List Text}

theorem contains_join_iff (plain : files.IsPlain) (leads : LeadsTo root rooted names)
    (some : track ≠ []) (areNames : ∀ name ∈ track, IsName name) :
    files.contains (join root (ofNames false track)) = true ↔
      files.Holds rooted (names ++ track) := by
  rw [← enter_eq_join some areNames, contains_iff plain (leads.enter areNames)]

/-- Seeing a file from a place is having a visible way to it. -/
theorem isVisible_iff (plain : files.IsPlain) (leads : LeadsTo root rooted names)
    (some : track ≠ []) :
    (files.IsVisible root (ofNames false track) ∧ ∀ name ∈ track, IsName name) ↔
      files.Sees rooted names track := by
  constructor
  · rintro ⟨visible, areNames⟩
    refine ⟨(contains_join_iff plain leads some areNames).mp visible.stored, ?_⟩
    rintro first last rfl someFirst someLast holds
    have areFirst : ∀ name ∈ first, IsName name :=
      fun name member => areNames name (List.mem_append_left _ member)
    have stored := (contains_join_iff plain leads someFirst areFirst).mpr holds
    rw [visible.free _ _ (ofNames_append someFirst someLast)] at stored
    cases stored
  · intro sees
    have areNames : ∀ name ∈ track, IsName name :=
      fun name member => sees.1.1 name (List.mem_append_right _ member)
    refine ⟨⟨isRelativePlain_iff.mpr ⟨track, some, areNames, rfl⟩,
      (contains_join_iff plain leads some areNames).mpr sees.1, ?_⟩, areNames⟩
    intro first last shape
    have pieces : track = Text.splitOn '/' first ++ Text.splitOn '/' last := by
      rw [← Text.splitOn_append_separator, ← shape]
      exact (splitOn_join_names some areNames).symm
    have someFirst := Text.splitOn_ne_nil '/' first
    have areFirst : ∀ name ∈ Text.splitOn '/' first, IsName name :=
      fun name member => areNames name (pieces ▸ List.mem_append_left _ member)
    have whole : ofNames false (Text.splitOn '/' first) = first := Text.join_splitOn '/' first
    have hidden := sees.2 _ _ pieces someFirst (Text.splitOn_ne_nil '/' last)
    rw [← contains_join_iff plain leads someFirst areFirst, whole] at hidden
    exact Bool.eq_false_iff.mpr hidden

/-- A path is a directory when it is no file, and a file lies below it unless it is the working
directory. -/
theorem isDirectory_iff (plain : files.IsPlain) (leads : LeadsTo root rooted names) :
    files.IsDirectory rooted names ↔ files.contains root = false ∧ (normalize root = ['.'] ∨
      ∃ rel, Path.IsRelativePlain rel ∧ files.contains (join root rel) = true) := by
  rw [IsDirectory, ← contains_iff plain leads, Bool.not_eq_true, leads.normalize_eq_dot_iff]
  apply and_congr_right
  intro _
  apply or_congr_right
  constructor
  · rintro ⟨name, rest, holds⟩
    have areNames : ∀ part ∈ name :: rest, IsName part :=
      fun part member => holds.1 part (List.mem_append_right _ member)
    exact ⟨ofNames false (name :: rest),
      isRelativePlain_iff.mpr ⟨_, List.cons_ne_nil _ _, areNames, rfl⟩,
      (contains_join_iff plain leads (List.cons_ne_nil _ _) areNames).mpr holds⟩
  · rintro ⟨rel, relPlain, stored⟩
    obtain ⟨track, some, areNames, rfl⟩ := isRelativePlain_iff.mp relPlain
    have holds := (contains_join_iff plain leads some areNames).mp stored
    obtain ⟨name, rest, rfl⟩ := List.exists_cons_of_ne_nil some
    exact ⟨name, rest, holds⟩

end MemoryFiles

namespace Pipeline

open Companion.Path Companion.MemoryFiles

variable {pipeline : Pipeline} {store : MemoryFiles} {root : Text}

/-- From a directory exactly the visible files that the pattern accepts are found, each once and in
the lexicographic order of the components of their paths; from anything else nothing can be found. -/
theorem discover_finds_visible (rootIs : pipeline.root = .path root) (ordinary : IsOrdinary root)
    (plain : store.IsPlain) :
    (store.contains root = false ∧ (normalize root = ['.'] ∨
        ∃ rel, Path.IsRelativePlain rel ∧ store.contains (join root rel) = true) →
      ∃ paths, pipeline.discover store = .ok paths ∧ paths.Nodup ∧
        paths.Pairwise (fun path later => components path < components later) ∧
        ∀ path, path ∈ paths ↔
          ∃ rel, path = join root rel ∧ store.IsVisible root rel ∧ pipeline.accepts path = true) ∧
    (¬ (store.contains root = false ∧ (normalize root = ['.'] ∨
        ∃ rel, Path.IsRelativePlain rel ∧ store.contains (join root rel) = true)) →
      pipeline.discover store = .error (.fileNotFound root)) := by
  obtain ⟨rooted, names, leads⟩ := ordinary
  have found : pipeline.discover store = FileStore.walk store pipeline.accepts root := by
    rw [discover, rootIs]
  rw [← isDirectory_iff plain leads, found]
  rcases walk_eq pipeline.accepts plain leads with ⟨directory, walked⟩ | ⟨other, failed⟩
  · refine ⟨fun _ => ⟨_, walked, ?_⟩, fun other => absurd directory other⟩
    have ascending : ((store.tracks pipeline.accepts (store.depth + 2) root).map
        (enter root)).Pairwise (fun path later => components path < components later) := by
      rw [List.pairwise_map]
      refine (tracks_ascending _ root).imp_of_mem fun isTrack isOther less => ?_
      obtain ⟨-, sees, -⟩ := (mem_tracks_depth_iff plain leads).mp isTrack
      obtain ⟨-, seesOther, -⟩ := (mem_tracks_depth_iff plain leads).mp isOther
      rw [(sees.leadsTo leads).components, (seesOther.leadsTo leads).components]
      exact List.append_left_lt less
    refine ⟨ascending.imp fun less same => ?_, ascending, fun path => ?_⟩
    · rw [same] at less
      exact lt_irrefl _ less
    rw [List.mem_map]
    constructor
    · rintro ⟨track, isTrack, rfl⟩
      obtain ⟨some, sees, accepted⟩ := (mem_tracks_depth_iff plain leads).mp isTrack
      obtain ⟨visible, areNames⟩ := (isVisible_iff plain leads some).mpr sees
      exact ⟨ofNames false track, enter_eq_join some areNames, visible, accepted⟩
    · rintro ⟨rel, rfl, visible, accepted⟩
      obtain ⟨track, some, areNames, rfl⟩ := isRelativePlain_iff.mp visible.plain
      have sees := (isVisible_iff plain leads some).mp ⟨visible, areNames⟩
      rw [← enter_eq_join some areNames] at accepted ⊢
      exact ⟨track, (mem_tracks_depth_iff plain leads).mpr ⟨some, sees, accepted⟩, rfl⟩
  · exact ⟨fun directory => absurd directory other, fun _ => failed⟩

/-- Siblings that share an opening part, and a file that stands in the way to another one. -/
def siblings : MemoryFiles :=
  .ofList [("src/a.ts", ""), ("src/a/b.ts", ""), ("src/a-b/c.ts", ""), ("src/d", ""),
    ("src/d/e.ts", "")]

/-- The order is that of the components, in which `a` comes before `a-b` and `a.ts`. -/
theorem discover_finds_siblings :
    ∃ paths, discover { root := .path "src" } siblings = .ok paths ∧
      paths = ["src/a/b.ts", "src/a-b/c.ts", "src/a.ts", "src/d"].map String.toList ∧
      paths.Nodup ∧ paths.Pairwise (fun path later => components path < components later) ∧
      ∀ path, path ∈ paths ↔ ∃ rel, path = join "src" rel ∧ siblings.IsVisible "src" rel := by
  have ordinary : IsOrdinary "src" := ⟨false, ["src"], rfl, rfl, by decide⟩
  have plain : siblings.IsPlain := by
    unfold MemoryFiles.IsPlain
    decide
  have noFile : siblings.contains "src" = false ∧ (normalize "src" = ['.'] ∨
      ∃ rel, Path.IsRelativePlain rel ∧ siblings.contains (join "src" rel) = true) :=
    ⟨by decide, .inr ⟨"a.ts", by decide, by decide⟩⟩
  have all : discover { root := .path "src" } siblings =
      .ok (["src/a/b.ts", "src/a-b/c.ts", "src/a.ts", "src/d"].map String.toList) := by
    decide +kernel
  have rootIs : root { root := .path "src" } = .path "src" := rfl
  obtain ⟨paths, found, once, ascending, members⟩ :=
    (discover_finds_visible rootIs ordinary plain).1 noFile
  refine ⟨paths, found, Except.ok.inj (found.symm.trans all), once, ascending, fun path => ?_⟩
  rw [members]
  simp [accepts]

/-! ## Any files and roots -/

/-- The normal form of the path goes on behind that of the root, with names only. -/
def IsStrictlyBelow (root path : Text) : Prop :=
  rootSlashes path = rootSlashes root ∧ ∃ names, names ≠ [] ∧ (∀ name ∈ names, IsName name) ∧
    components path = components root ++ names

/-- The walk goes down from directory to directory only so often, and it ends with a list of stored
files strictly below the root or with a missing file. -/
def EndsBelow (pipeline : Pipeline) (root : Text) (store : MemoryFiles) : Prop :=
  Acc (FileStore.Descends store) root ∧
    EndsWith (fun path => store.contains path = true ∧ IsStrictlyBelow root path)
      (pipeline.discover store)

theorem mem_names_of_climbs (normal : store.IsNormal) (climbs : store.Climbs root) :
    up ∈ store.names (normalize root) := by
  obtain ⟨-, relative, key, isKey, keyRelative, rest, parts, alone⟩ := climbs
  by_cases none : components root = []
  · rw [alone none, none, List.nil_append] at parts
    have isUp : key = up := by
      rw [← normal key isKey, Path.normalize, rootSlashes_of_relative keyRelative, parts]
      rfl
    have isDot : Path.normalize root = ['.'] := by
      rw [Path.normalize, rootSlashes_of_relative relative, none]
      rfl
    subst isUp
    exact mem_names_iff_exists_way.mpr ⟨up, isKey, up, by rw [isDot]; rfl, rfl⟩
  · exact mem_names_of_components none isKey (normal key isKey) relative keyRelative parts

/-- What lies behind a path that does not climb lies strictly below it. -/
theorem isStrictlyBelow_of_liesBehind (normal : store.IsNormal) (ends : ¬ store.Loops root)
    (stays : ¬ store.Climbs root) (noFile : store.contains root = false) {path : Text}
    (behind : store.LiesBehind root path) : IsStrictlyBelow root path := by
  obtain ⟨-, opens, name, member, track, parts⟩ := behind
  refine ⟨opens, name :: track, List.cons_ne_nil _ _, ?_, parts⟩
  have isName : IsName name := by
    rcases names_cases normal noFile member with
      ⟨-, loops⟩ | ⟨key, isKey, keyOpens, rest, keyParts, alone⟩
    · exact absurd loops ends
    have inside : name ∈ components key :=
      keyParts ▸ List.mem_append_right _ List.mem_cons_self
    rcases isName_or_eq_up inside with isName | rfl
    · exact isName
    · have relative : isAbsolute key = false := by
        by_contra absolute
        rw [Bool.not_eq_false] at absolute
        exact absurd rfl (isName_of_isAbsolute absolute up inside).2.2.1
      have rootRelative := keyOpens.symm.trans relative
      exact absurd ⟨noFile, rootRelative, key, isKey, relative, rest, keyParts,
        fun none => alone rootRelative none rfl⟩ stays
  exact List.forall_mem_cons.mpr ⟨isName, isName_of_components isName parts⟩

/-- Whatever has been written and whatever the root: a walk goes one component deeper with each
directory, loops apart; and it ends below the root, for every pattern, just if the root is no loop
and does not climb. -/
theorem discover_endsBelow_iff (writes : List (Text × Text)) (root : Text) :
    (∀ entry directory, FileStore.Descends (ofList writes) entry directory →
      (ofList writes).Loops directory ∨
        ∃ name, components entry = components directory ++ [name]) ∧
    ((∀ pipeline : Pipeline, pipeline.root = .path root →
        pipeline.EndsBelow root (ofList writes)) ↔
      ¬ (ofList writes).Loops root ∧ ¬ (ofList writes).Climbs root) := by
  have normal := isNormal_ofList writes
  constructor
  · intro entry directory descends
    obtain ⟨noFile, -, name, member, rfl⟩ := exists_of_descends descends
    by_cases loops : (ofList writes).Loops directory
    · exact .inl loops
    · obtain ⟨-, deeper, -⟩ := components_join_of_mem_names normal noFile loops member
      exact .inr ⟨name, deeper⟩
  constructor
  · intro all
    obtain ⟨accessible, walked⟩ := all { root := .path root } rfl
    refine ⟨fun loops => loops.not_acc accessible, fun climbs => ?_⟩
    -- a walk that climbs finds a file behind the step up
    obtain ⟨paths, success, found, isFound, track, behind⟩ : ∃ paths,
        discover { root := .path root } (ofList writes) = .ok paths ∧
        ∃ found ∈ paths, ∃ track, components found = components root ++ up :: track :=
      exists_found_of_mem_names normal (fun _ => rfl) climbs.2.1 climbs.1
        (mem_names_of_climbs normal climbs) (Nat.le_add_right _ _) (.inl (Nat.succ_pos _))
    rcases walked with ⟨missing, failed⟩ | ⟨others, same, below⟩
    · exact absurd (success.symm.trans failed) nofun
    · obtain rfl := Except.ok.inj (success.symm.trans same)
      obtain ⟨-, -, names, -, areNames, parts⟩ := below found isFound
      have isUp : up ∈ names := by
        rw [behind, List.append_cancel_left_eq] at parts
        exact parts ▸ List.mem_cons_self
      exact absurd rfl (areNames up isUp).2.2.1
  · rintro ⟨ends, stays⟩ pipeline rootIs
    refine ⟨acc_descends normal ends, ?_⟩
    have discovered : pipeline.discover (ofList writes) = FileStore.walkWithin (ofList writes)
        pipeline.accepts ((ofList writes).depth + 1 + 1) root := by
      rw [discover, rootIs]
      rfl
    rw [discovered]
    rcases list_cases (ofList writes) root with ⟨noFile, -⟩ | failed
    · have walked : EndsWith ((ofList writes).LiesBehind root) (FileStore.walkWithin
          (ofList writes) pipeline.accepts ((ofList writes).depth + 1 + 1) root) :=
        walkWithin_endsWith normal ends (Nat.le_add_right _ _) (.inl (Nat.succ_pos _))
      exact walked.imp fun path behind =>
        ⟨behind.1, isStrictlyBelow_of_liesBehind normal ends stays noFile behind⟩
    · refine .inl ⟨root, ?_⟩
      rw [walkWithin_succ, failed]
      rfl

/-- A walk from a directory of names goes down one name and ends below the directory. -/
theorem discover_endsBelow_nested :
    FileStore.Descends (ofList [("src/a/b.ts", "")]) "src/a" "src" ∧
      (∃ name, components "src/a" = components "src" ++ [name]) ∧
      EndsBelow { root := .path "src" } "src" (ofList [("src/a/b.ts", "")]) := by
  obtain ⟨deeper, ends⟩ := discover_endsBelow_iff [("src/a/b.ts", "")] "src"
  have descends : FileStore.Descends (ofList [("src/a/b.ts", "")]) "src/a" "src" :=
    ⟨["src/a".toList], rfl, List.mem_singleton_self _, { isDirectory := true }, rfl, rfl⟩
  have stays : ¬ (ofList [("src/a/b.ts", "")]).Climbs "src" := by
    rintro ⟨-, -, key, isKey, -, rest, parts, -⟩
    obtain rfl := List.mem_singleton.mp isKey
    have second : ["src".toList, "a".toList, "b.ts".toList] = "src".toList :: up :: rest := parts
    simp at second
  have noLoop : ¬ (ofList [("src/a/b.ts", "")]).Loops "src" := not_loops_of_relative rfl
  exact ⟨descends, (deeper _ _ descends).resolve_left noLoop,
    ends.mpr ⟨noLoop, stays⟩ { root := .path "src" } rfl⟩

/-- A file under a step up is found from the working directory, though it does not lie below it, and
from the root a path opened by two slashes is sought without end. -/
theorem discover_leaves_root :
    (discover { root := .path "." } (ofList [("..", "")]) = .ok ["./..".toList] ∧
      ¬ IsStrictlyBelow "." "./..") ∧
    discover { root := .path "/" } (ofList [("//a", "")]) = .error .endlessWalk := by
  refine ⟨⟨by decide +kernel, ?_⟩, by decide +kernel⟩
  rintro ⟨-, names, -, areNames, parts⟩
  have isUp : up ∈ names := by
    have same : [up] = names := parts
    exact same ▸ List.mem_cons_self
  exact absurd rfl (areNames up isUp).2.2.1

end Pipeline

end Companion
