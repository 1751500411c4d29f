import Companion.Proofs.Files.Walk
import Companion.Proofs.Path.Forms

/-!
# Walks through any files

Walks from any path through files under any normal forms, steps up and double slashes included. A
walk goes from a directory to entries one component further and so comes to an end, with one
exception: below the root, what is opened by two slashes is listed under an empty name, which leads
back to the root. And from a path of steps up a walk goes further up when files are kept there.
-/

set_option autoImplicit false

namespace Companion

/-- A walk that lists a directory goes on into one of its entries. -/
def FileStore.Descends {σ : Type} [FileStore σ] (store : σ) (entry directory : Text) : Prop :=
  ∃ entries, list store directory = .ok entries ∧ entry ∈ entries ∧
    ∃ status, stat store entry = .ok status ∧ status.isDirectory = true

namespace MemoryFiles

open Companion.Path

/-- All files are kept under normal forms. -/
def IsNormal (files : MemoryFiles) : Prop := ∀ key ∈ files.keys, normalize key = key

/-- The root itself, when a path that is opened by two slashes seems to lie below it. -/
def Loops (files : MemoryFiles) (path : Text) : Prop :=
  files.contains path = false ∧ isAbsolute path = true ∧ components path = [] ∧
    ∃ rest, '/' :: '/' :: rest ∈ files.keys

/-- A path of steps up, when a file is kept further up. The working directory hides such files
unless it is the step up itself that names the file. -/
def Climbs (files : MemoryFiles) (path : Text) : Prop :=
  files.contains path = false ∧ isAbsolute path = false ∧ ∃ key ∈ files.keys,
    isAbsolute key = false ∧ ∃ rest, components key = components path ++ up :: rest ∧
      (components path = [] → rest = [])

/-- Whatever is written, keys are normal forms. -/
theorem isNormal_ofList (writes : List (Text × Text)) : (ofList writes).IsNormal := by
  intro key member
  rcases mem_keys_writeTexts.mp member with none | ⟨path, -, rfl⟩
  · cases none
  · exact normalize_normalize path

variable {files : MemoryFiles} {accepts : Text → Bool} {path name : Text}

theorem contains_eq_false_iff : files.contains path = false ↔ normalize path ∉ files.keys := by
  rw [← Bool.not_eq_true, contains, get?_isSome_iff]

/-! ## Ways down -/

private theorem properlyBelow?_eq_some {directory key way : Text}
    (below : properlyBelow? directory key = some way) :
    below? directory key = some way ∧ way ≠ [] := by
  unfold properlyBelow? at below
  split at below
  · next found =>
    cases below
    exact ⟨found, List.cons_ne_nil _ _⟩
  · cases below

private theorem properlyBelow?_of_ne_nil {directory key way : Text}
    (below : below? directory key = some way) (some : way ≠ []) :
    properlyBelow? directory key = Option.some way := by
  obtain ⟨c, rest, rfl⟩ := List.exists_cons_of_ne_nil some
  rw [properlyBelow?, below]

private theorem directoryMark_normalize (some : components path ≠ []) :
    directoryMark (normalize path) = normalize path ++ ['/'] := by
  obtain ⟨front, c, different, shape⟩ :=
    exists_join_eq_concat some fun part member => isPart_of_mem_components member
  rw [directoryMark, normalize_eq_of_components some, shape, ← List.append_assoc,
    dropFinalSlashes_concat different]

private theorem normalize_ne_dot (some : components path ≠ []) : normalize path ≠ ['.'] := by
  intro dot
  have same := components_normalize path
  rw [dot] at same
  exact some same.symm

/-- A key below a path with components goes on behind them. -/
private theorem components_of_below? (some : components path ≠ []) {key way : Text}
    (normal : normalize key = key) (below : below? (normalize path) key = Option.some way) :
    isAbsolute key = isAbsolute path ∧
      components key = components path ++ Text.splitOn '/' way := by
  rw [below?_eq_some_iff_append (normalize_ne_dot some), directoryMark_normalize some,
    List.append_assoc] at below
  obtain ⟨opens, continued⟩ := components_continued normal some below
  exact ⟨isAbsolute_congr opens, continued⟩

/-- A key whose components go on behind those of a relative path lies below it. -/
private theorem properlyBelow?_of_components (some : components path ≠ []) {key : Text}
    (normal : normalize key = key) (relative : isAbsolute path = false)
    (keyRelative : isAbsolute key = false) {rest : List Text} (someRest : rest ≠ [])
    (parts : components key = components path ++ rest) :
    properlyBelow? (normalize path) key = Option.some (Text.join ['/'] rest) := by
  have opens : rootSlashes key = rootSlashes path := by
    rw [rootSlashes_of_relative relative, rootSlashes_of_relative keyRelative]
  have areParts : ∀ part ∈ rest, IsPart part :=
    fun part member => isPart_of_mem_components (parts ▸ List.mem_append_right _ member)
  obtain ⟨front, c, -, shape⟩ := exists_join_eq_concat someRest areParts
  apply properlyBelow?_of_ne_nil
  · rw [below?_eq_some_iff_append (normalize_ne_dot some), directoryMark_normalize some,
      List.append_assoc]
    exact eq_continued normal some opens someRest parts
  · simp [shape]

/-- Below the working directory lies what starts neither at the root nor further up. -/
private theorem components_of_below?_dot {key way : Text} (normal : normalize key = key)
    (notDot : key ≠ ['.']) (below : below? ['.'] key = some way) :
    key = way ∧ isAbsolute key = false ∧ components key = Text.splitOn '/' key ∧
      ∀ rest, components key = up :: rest → rest = [] := by
  rw [below?, if_pos rfl] at below
  split at below
  · cases below
  next inside =>
  simp only [Bool.or_eq_true, not_or] at inside
  have relative : isAbsolute key = false := by
    cases key with
    | nil => rfl
    | cons c more =>
        have different : c ≠ '/' := fun slash => inside.1 (slash ▸ rfl)
        simp [isAbsolute, different]
  have some : components key ≠ [] := by
    intro empty
    rcases normalize_cases_of_components_eq_nil empty with ⟨-, isDot⟩ | ⟨absolute, -⟩
    · exact notDot (normal.symm.trans isDot)
    · rw [relative] at absolute
      cases absolute
  have parts := splitOn_normalize some
  rw [normal, rootSlashes_of_relative relative] at parts
  refine ⟨Option.some.inj below, relative, parts.symm, fun rest climbs => ?_⟩
  by_contra more
  obtain ⟨next, others, rfl⟩ := List.exists_cons_of_ne_nil more
  have whole := Text.join_splitOn '/' key
  rw [parts, List.map_nil, List.nil_append, climbs] at whole
  exact inside.2 (whole ▸ rfl)

/-- Below the root lies what starts with a slash, however many slashes the root is spelled with. -/
private theorem below?_root_eq_some_iff (absolute : isAbsolute path = true)
    (none : components path = []) {key way : Text} :
    below? (normalize path) key = some way ↔ key = '/' :: way := by
  rcases normalize_cases_of_components_eq_nil none with ⟨relative, -⟩ | ⟨-, isSlashes⟩
  · rw [absolute] at relative
    cases relative
  · have mark : directoryMark (normalize path) = ['/'] := by
      rw [isSlashes]
      rcases rootSlashes_cases path with ⟨-, opens⟩ | ⟨-, opens | opens⟩ <;> rw [opens] <;> rfl
    have notDot : normalize path ≠ ['.'] := by
      intro dot
      have same := isAbsolute_normalize path
      rw [dot, absolute] at same
      cases same
    rw [below?_eq_some_iff_append notDot, mark, List.singleton_append]

private theorem components_slash {way : Text} (normal : normalize ('/' :: way) = '/' :: way)
    (some : way ≠ []) (single : isAbsolute way = false) :
    components ('/' :: way) = Text.splitOn '/' way := by
  have opens : rootSlashes ('/' :: way) = ['/'] := rootSlashes_slash single
  have someParts : components ('/' :: way) ≠ [] := by
    intro empty
    rcases normalize_cases_of_components_eq_nil empty with ⟨relative, -⟩ | ⟨-, slashes⟩
    · cases relative
    · rw [normal, opens] at slashes
      exact some (List.tail_eq_of_cons_eq slashes)
  have parts := splitOn_normalize someParts
  rw [normal, opens, Text.splitOn_cons_separator] at parts
  exact (List.tail_eq_of_cons_eq parts).symm

theorem mem_names_iff_exists_way :
    name ∈ files.names (normalize path) ↔ ∃ key ∈ files.keys, ∃ way,
      properlyBelow? (normalize path) key = some way ∧ way.takeWhile (· ≠ '/') = name := by
  simp only [names, Text.mem_sortedDistinct, List.mem_map, List.mem_filterMap]
  constructor
  · rintro ⟨way, ⟨key, isKey, below⟩, first⟩
    exact ⟨key, isKey, way, below, first⟩
  · rintro ⟨key, isKey, way, below, first⟩
    exact ⟨way, ⟨key, isKey, below⟩, first⟩

/-- What a path lists are names and steps up that some key goes on with, or the empty name where
the root is listed and some key is opened by two slashes. -/
theorem names_cases (normal : files.IsNormal) (noFile : files.contains path = false)
    (member : name ∈ files.names (normalize path)) :
    (name = [] ∧ files.Loops path) ∨
      ∃ key ∈ files.keys, isAbsolute key = isAbsolute path ∧ ∃ rest,
        components key = components path ++ name :: rest ∧
        (isAbsolute path = false → components path = [] → name = up → rest = []) := by
  obtain ⟨key, isKey, way, below, rfl⟩ := mem_names_iff_exists_way.mp member
  obtain ⟨below, someWay⟩ := properlyBelow?_eq_some below
  have keyNormal := normal key isKey
  obtain ⟨rest, pieces⟩ := List.head?_eq_some_iff.mp (Text.head?_splitOn '/' way)
  by_cases none : components path = []
  · rcases normalize_cases_of_components_eq_nil none with ⟨relative, isDot⟩ | ⟨absolute, -⟩
    · have notDot : key ≠ ['.'] := by
        rintro rfl
        exact contains_eq_false_iff.mp noFile (isDot ▸ isKey)
      rw [isDot] at below
      obtain ⟨rfl, keyRelative, parts, alone⟩ := components_of_below?_dot keyNormal notDot below
      refine .inr ⟨key, isKey, keyRelative.trans relative.symm, rest, ?_, fun _ _ isUp => ?_⟩
      · rw [parts, pieces, none, List.nil_append]
      · exact alone rest (by rw [parts, pieces, isUp])
    · obtain rfl := (below?_root_eq_some_iff absolute none).mp below
      obtain ⟨c, more, rfl⟩ := List.exists_cons_of_ne_nil someWay
      by_cases slash : c = '/'
      · subst slash
        exact .inl ⟨rfl, noFile, absolute, none, more, isKey⟩
      · have parts := components_slash keyNormal someWay (by simp [isAbsolute, slash])
        refine .inr ⟨_, isKey, absolute.symm, rest, ?_, fun relative => ?_⟩
        · rw [parts, pieces, none, List.nil_append]
        · rw [absolute] at relative
          cases relative
  · obtain ⟨opens, continued⟩ := components_of_below? none keyNormal below
    refine .inr ⟨key, isKey, opens, rest, by rw [continued, pieces], fun _ empty => ?_⟩
    exact absurd empty none

/-- A relative path lists the component that a key goes on with. -/
theorem mem_names_of_components (some : components path ≠ []) {key : Text} (isKey : key ∈ files.keys)
    (normal : normalize key = key) (relative : isAbsolute path = false)
    (keyRelative : isAbsolute key = false) {rest : List Text}
    (parts : components key = components path ++ name :: rest) :
    name ∈ files.names (normalize path) := by
  have below := properlyBelow?_of_components some normal relative keyRelative
    (List.cons_ne_nil name rest) parts
  have clean : ∀ part ∈ name :: rest, '/' ∉ part := fun part member =>
    (isPart_of_mem_components (parts ▸ List.mem_append_right _ member)).2
  have first := Text.head?_splitOn '/' (Text.join ['/'] (name :: rest))
  rw [Text.splitOn_join (List.cons_ne_nil _ _) clean, List.head?_cons, Option.some.injEq] at first
  exact mem_names_iff_exists_way.mpr ⟨key, isKey, _, below, first.symm⟩

theorem contains_of_components {key : Text} (isKey : key ∈ files.keys)
    (normal : normalize key = key) (relative : isAbsolute path = false)
    (keyRelative : isAbsolute key = false) (parts : components key = components path) :
    files.contains path = true := by
  have opens : rootSlashes path = rootSlashes key := by
    rw [rootSlashes_of_relative relative, rootSlashes_of_relative keyRelative]
  rw [contains, get?_isSome_iff, normalize_congr opens parts.symm, normal]
  exact isKey

/-- Entering what a key goes on with leads one component further. -/
theorem components_join_of_key {key : Text} {rest : List Text}
    (opens : isAbsolute key = isAbsolute path)
    (parts : components key = components path ++ name :: rest) :
    isAbsolute name = false ∧ components (join path name) = components path ++ [name] := by
  have member : name ∈ components key := parts ▸ List.mem_append_right _ List.mem_cons_self
  have clean : '/' ∉ name := (isPart_of_mem_components member).2
  have relative := isAbsolute_of_not_mem clean
  refine ⟨relative, ?_⟩
  rw [components_join relative, follow_eq_push clean]
  rcases isName_or_eq_up member with isName | rfl
  · rw [push_name isName, List.reverse_cons, List.reverse_reverse]
  · have ups := eq_up_of_components parts
    have pathRelative : isAbsolute path = false := by
      by_contra absolute
      rw [Bool.not_eq_false, ← opens] at absolute
      exact absurd rfl (isName_of_isAbsolute absolute up member).2.2.1
    obtain ⟨count, shape⟩ : ∃ count, components path = List.replicate count up :=
      ⟨_, List.eq_replicate_of_mem ups⟩
    rw [pathRelative, shape, List.reverse_replicate]
    cases count with
    | zero => rfl
    | succ count =>
        rw [List.replicate_succ, push_up_up, ← List.replicate_succ, List.reverse_cons,
          List.reverse_replicate]

/-! ## Steps of a walk -/

theorem stat_cases (files : MemoryFiles) (path : Text) :
    (files.contains path = true ∧ files.stat path = .ok { isFile := true }) ∨
      (files.contains path = false ∧ files.stat path = .ok { isDirectory := true }) ∨
      files.stat path = .error (.fileNotFound path) := by
  rw [stat, contains]
  cases stored : (files.get? (normalize path)).isSome with
  | true => exact .inl ⟨rfl, rfl⟩
  | false =>
      by_cases directory : (decide (normalize path = ['.']) ||
          files.keys.any fun other => (properlyBelow? (normalize path) other).isSome) = true
      · exact .inr (.inl ⟨rfl, if_pos directory⟩)
      · exact .inr (.inr (if_neg directory))

theorem stat_of_contains (stored : files.contains path = true) :
    files.stat path = .ok { isFile := true } := by
  rw [stat, if_pos (show (files.get? (normalize path)).isSome = true from stored)]

theorem list_cases (files : MemoryFiles) (path : Text) :
    (files.contains path = false ∧
        files.list path = .ok ((files.names (normalize path)).map (join path))) ∨
      files.list path = .error (.fileNotFound path) := by
  rw [list, contains]
  cases stored : (files.get? (normalize path)).isSome with
  | true => exact .inr rfl
  | false =>
      by_cases nothing : (false || (files.names (normalize path)).isEmpty &&
          decide (normalize path ≠ ['.'])) = true
      · exact .inr (if_pos nothing)
      · exact .inl ⟨rfl, if_neg nothing⟩

/-- What lists an entry can be listed. -/
theorem list_of_mem_names (noFile : files.contains path = false)
    (member : name ∈ files.names (normalize path)) :
    files.list path = .ok ((files.names (normalize path)).map (join path)) := by
  have stored : (files.get? (normalize path)).isSome = false := noFile
  have someName : (files.names (normalize path)).isEmpty = false := by
    rw [List.isEmpty_eq_false_iff]
    exact List.ne_nil_of_mem member
  rw [list, stored, someName]
  rfl

/-- A path that lists an entry is a directory. -/
theorem stat_of_mem_names (noFile : files.contains path = false)
    (member : name ∈ files.names (normalize path)) :
    files.stat path = .ok { isDirectory := true } := by
  obtain ⟨key, isKey, way, below, -⟩ := mem_names_iff_exists_way.mp member
  have stored : (files.get? (normalize path)).isSome = false := noFile
  have listed : (files.keys.any fun other => (properlyBelow? (normalize path) other).isSome) =
      true := List.any_eq_true.mpr ⟨key, isKey, Option.isSome_of_eq_some below⟩
  rw [stat, stored, listed, Bool.or_true]
  rfl

/-- A walk goes from a directory into entries that it lists and that are no files. -/
theorem exists_of_descends {entry : Text} (descends : FileStore.Descends files entry path) :
    files.contains path = false ∧ files.contains entry = false ∧
      ∃ name ∈ files.names (normalize path), entry = join path name := by
  obtain ⟨entries, listed, member, status, told, isDirectory⟩ := descends
  rcases list_cases files path with ⟨noFile, found⟩ | failed
  · obtain rfl := Except.ok.inj (found.symm.trans listed)
    obtain ⟨name, isName, rfl⟩ := List.mem_map.mp member
    refine ⟨noFile, ?_, name, isName, rfl⟩
    rcases stat_cases files (join path name) with ⟨-, file⟩ | ⟨none, -⟩ | missing
    · obtain rfl := Except.ok.inj (file.symm.trans told)
      cases isDirectory
    · exact none
    · exact absurd (missing.symm.trans told) nofun
  · exact absurd (failed.symm.trans listed) nofun

/-! ## Depth -/

theorem length_components_le_depth (normal : files.IsNormal) {key : Text}
    (isKey : key ∈ files.keys) : (components key).length ≤ files.depth := by
  by_cases none : components key = []
  · simp [none]
  · have spelled := normalize_eq_of_components none
    rw [normal key isKey] at spelled
    have joined : (components key).length ≤ (ofNames false (components key)).length :=
      length_le_length_ofNames fun part member => (isPart_of_mem_components member).1
    rw [ofNames, if_neg Bool.false_ne_true, List.nil_append] at joined
    have whole := congrArg List.length spelled
    rw [List.length_append] at whole
    have short := length_le_depth isKey
    omega

/-- What a path lists leads one component further, and not beyond the deepest file. -/
theorem components_join_of_mem_names (normal : files.IsNormal)
    (noFile : files.contains path = false) (ends : ¬ files.Loops path)
    (member : name ∈ files.names (normalize path)) :
    isAbsolute name = false ∧ components (join path name) = components path ++ [name] ∧
      (components (join path name)).length ≤ files.depth := by
  rcases names_cases normal noFile member with ⟨-, loops⟩ | ⟨key, isKey, opens, rest, parts, -⟩
  · exact absurd loops ends
  · obtain ⟨relative, deeper⟩ := components_join_of_key opens parts
    refine ⟨relative, deeper, ?_⟩
    have short := length_components_le_depth normal isKey
    rw [parts, List.length_append, List.length_cons] at short
    rw [deeper, List.length_append, List.length_singleton]
    omega

theorem not_loops_of_components {front : List Text}
    (shape : components path = front ++ [name]) : ¬ files.Loops path := by
  rintro ⟨-, -, none, -⟩
  rw [shape] at none
  simp at none

theorem not_loops_of_relative (relative : isAbsolute path = false) : ¬ files.Loops path := by
  rintro ⟨-, absolute, -⟩
  rw [relative] at absolute
  cases absolute

/-- From anything but a loop, walks go down a limited number of steps. -/
theorem acc_descends (normal : files.IsNormal) (ends : ¬ files.Loops path) :
    Acc (FileStore.Descends files) path := by
  have within : ∀ (steps : Nat) (path : Text), ¬ files.Loops path →
      files.depth ≤ steps + (components path).length → Acc (FileStore.Descends files) path := by
    intro steps
    induction steps with
    | zero =>
        intro path ends deep
        refine Acc.intro _ fun entry descends => ?_
        obtain ⟨noFile, -, name, member, rfl⟩ := exists_of_descends descends
        obtain ⟨-, deeper, short⟩ := components_join_of_mem_names normal noFile ends member
        rw [deeper, List.length_append, List.length_singleton] at short
        omega
    | succ steps ih =>
        intro path ends deep
        refine Acc.intro _ fun entry descends => ?_
        obtain ⟨noFile, -, name, member, rfl⟩ := exists_of_descends descends
        obtain ⟨-, deeper, -⟩ := components_join_of_mem_names normal noFile ends member
        refine ih _ (not_loops_of_components deeper) ?_
        rw [deeper, List.length_append, List.length_singleton]
        omega
  exact within files.depth path ends (Nat.le_add_right _ _)

/-! ## Loops -/

/-- A loop lists the empty name, which leads to another spelling of the same directory. -/
theorem Loops.step (loops : files.Loops path) :
    [] ∈ files.names (normalize path) ∧ files.Loops (join path []) := by
  obtain ⟨noFile, absolute, none, rest, isKey⟩ := loops
  have below : below? (normalize path) ('/' :: '/' :: rest) = some ('/' :: rest) :=
    (below?_root_eq_some_iff absolute none).mpr rfl
  have opens : rootSlashes (join path []) = rootSlashes path := rootSlashes_join rfl path
  have same : components (join path []) = components path := by
    rw [components_join rfl, follow_nil, List.reverse_reverse]
  refine ⟨mem_names_iff_exists_way.mpr ⟨_, isKey, '/' :: rest,
    properlyBelow?_of_ne_nil below (List.cons_ne_nil _ _), rfl⟩, ?_, ?_, same.trans none, rest,
    isKey⟩
  · rw [contains_eq_false_iff] at noFile ⊢
    rwa [normalize_congr opens same]
  · rw [isAbsolute_join rfl, absolute]

theorem Loops.descends (loops : files.Loops path) :
    FileStore.Descends files (join path []) path :=
  ⟨_, list_of_mem_names loops.1 loops.step.1, List.mem_map_of_mem loops.step.1, _,
    stat_of_mem_names loops.step.2.1 loops.step.2.step.1, rfl⟩

theorem Loops.not_acc (loops : files.Loops path) : ¬ Acc (FileStore.Descends files) path := by
  intro accessible
  induction accessible with
  | intro path _ ih => exact ih _ loops.descends loops.step.2

/-- A walk from a loop goes round until its bound is met, as the empty name comes first. -/
theorem walkWithin_of_loops (loops : files.Loops path) (fuel : Nat) :
    FileStore.walkWithin files accepts fuel path = .error .endlessWalk := by
  induction fuel generalizing path with
  | zero => rfl
  | succ fuel ih =>
      obtain ⟨listed, next⟩ := loops.step
      have told : files.stat (join path []) = .ok { isDirectory := true } :=
        stat_of_mem_names next.1 next.step.1
      have first : files.visit accepts fuel (join path []) = .error .endlessWalk := by
        rw [visit, told]
        exact ih next
      obtain ⟨others, names⟩ : ∃ others, files.names (normalize path) = [] :: others := by
        have ascending : Text.Ascending (files.names (normalize path)) :=
          Text.ascending_sortedDistinct _
        cases names : files.names (normalize path) with
        | nil =>
            rw [names] at listed
            cases listed
        | cons least others =>
            rw [names] at listed ascending
            rcases List.mem_cons.mp listed with rfl | later
            · exact ⟨others, rfl⟩
            · exact absurd ((List.pairwise_cons.mp ascending).1 [] later) (List.not_lt_nil _)
      rw [walkWithin_succ, list_of_mem_names loops.1 listed, names, List.map_cons]
      change ((join path [] :: others.map (join path)).mapM (files.visit accepts fuel)) >>= _ = _
      rw [List.mapM_cons, first]
      rfl

/-! ## Outcomes -/

/-- A search that ends in a missing file or with paths that all have a property. -/
def EndsWith (property : Text → Prop) (outcome : Except Failure (List Text)) : Prop :=
  (∃ missing, outcome = .error (.fileNotFound missing)) ∨
    ∃ paths, outcome = .ok paths ∧ ∀ found ∈ paths, property found

theorem EndsWith.imp {property weaker : Text → Prop} {outcome : Except Failure (List Text)}
    (ends : EndsWith property outcome) (weakens : ∀ found, property found → weaker found) :
    EndsWith weaker outcome := by
  rcases ends with failed | ⟨paths, success, all⟩
  · exact .inl failed
  · exact .inr ⟨paths, success, fun found member => weakens found (all found member)⟩

theorem EndsWith.flatten {property : Text → Prop} {items : List Text}
    {step : Text → Except Failure (List Text)}
    (each : ∀ item ∈ items, EndsWith property (step item)) :
    EndsWith property (items.mapM step >>= fun found => pure found.flatten) := by
  cases outcome : items.mapM step with
  | error failure =>
      have told := congrArg Failure.of? outcome
      rw [Failure.of?_mapM, Failure.of?_error] at told
      obtain ⟨item, isItem, failed⟩ := List.exists_of_findSome?_eq_some told
      rw [Failure.of?_eq_some_iff] at failed
      rcases each item isItem with ⟨missing, other⟩ | ⟨paths, success, -⟩
      · obtain rfl := Except.error.inj (failed.symm.trans other)
        exact .inl ⟨missing, rfl⟩
      · exact absurd (failed.symm.trans success) nofun
  | ok values =>
      refine .inr ⟨values.flatten, rfl, fun found isFound => ?_⟩
      obtain ⟨value, isValue, inside⟩ := List.mem_flatten.mp isFound
      obtain ⟨item, isItem, success⟩ := Failure.exists_of_mem_of_mapM_eq_ok outcome isValue
      rcases each item isItem with ⟨missing, other⟩ | ⟨paths, others, all⟩
      · exact absurd (success.symm.trans other) nofun
      · obtain rfl := Except.ok.inj (success.symm.trans others)
        exact all found inside

/-- The file found goes on behind a path with an entry listed there. -/
def LiesBehind (files : MemoryFiles) (path found : Text) : Prop :=
  files.contains found = true ∧ rootSlashes found = rootSlashes path ∧
    ∃ name ∈ files.names (normalize path), ∃ track,
      components found = components path ++ name :: track

theorem LiesBehind.of_join {found : Text} (behind : files.LiesBehind (join path name) found)
    (relative : isAbsolute name = false)
    (deeper : components (join path name) = components path ++ [name])
    (member : name ∈ files.names (normalize path)) : files.LiesBehind path found := by
  obtain ⟨stored, opens, next, -, track, parts⟩ := behind
  refine ⟨stored, opens.trans (rootSlashes_join relative path), name, member, next :: track, ?_⟩
  rw [parts, deeper, List.append_assoc, List.singleton_append]

theorem visit_of_directory {fuel : Nat} (told : files.stat path = .ok { isDirectory := true }) :
    files.visit accepts fuel path = FileStore.walkWithin files accepts fuel path := by
  rw [visit, told]
  rfl

theorem visit_of_file {fuel : Nat} (told : files.stat path = .ok { isFile := true }) :
    files.visit accepts fuel path = .ok (if accepts path then [path] else []) := by
  rw [visit, told]
  by_cases accepted : accepts path = true <;>
    simp [accepted, bind, Except.bind, pure, Except.pure]

theorem walkWithin_of_list {fuel : Nat} {entries : List Text}
    (listed : files.list path = .ok entries) :
    FileStore.walkWithin files accepts (fuel + 1) path =
      (entries.mapM (files.visit accepts fuel) >>= fun found => pure found.flatten) := by
  rw [walkWithin_succ, listed]
  rfl

/-- A walk from anything but a loop fails for a missing file or ends with files behind its path. -/
theorem walkWithin_endsWith (normal : files.IsNormal) {fuel : Nat} (ends : ¬ files.Loops path)
    (deep : files.depth + 2 ≤ fuel + (components path).length)
    (within : 0 < fuel ∨ (components path).length ≤ files.depth) :
    EndsWith (files.LiesBehind path) (FileStore.walkWithin files accepts fuel path) := by
  induction fuel generalizing path with
  | zero => omega
  | succ fuel ih =>
      rcases list_cases files path with ⟨noFile, listed⟩ | failed
      swap
      · exact .inl ⟨path, by rw [walkWithin_succ, failed]; rfl⟩
      rw [walkWithin_of_list listed]
      refine EndsWith.flatten fun entry isEntry => ?_
      obtain ⟨name, member, rfl⟩ := List.mem_map.mp isEntry
      obtain ⟨relative, deeper, short⟩ := components_join_of_mem_names normal noFile ends member
      rcases stat_cases files (join path name) with ⟨stored, told⟩ | ⟨-, told⟩ | missing
      · refine .inr ⟨_, visit_of_file told, fun found isFound => ?_⟩
        obtain rfl : found = join path name := by
          by_cases accepted : accepts (join path name) = true <;> simp_all
        exact ⟨stored, rootSlashes_join relative path, name, member, [], deeper⟩
      · have nextDeep : files.depth + 2 ≤ fuel + (components (join path name)).length := by
          rw [deeper, List.length_append, List.length_singleton]
          omega
        rw [visit_of_directory told]
        exact (ih (not_loops_of_components deeper) nextDeep (.inr short)).imp
          fun found behind => behind.of_join relative deeper member
      · exact .inl ⟨_, by rw [visit, missing]; rfl⟩

/-- Searches that all succeed succeed together, with everything that one of them has found. -/
theorem exists_flatten_eq_ok {items : List Text} {step : Text → Except Failure (List Text)}
    (each : ∀ item ∈ items, ∃ paths, step item = .ok paths) :
    ∃ all, (items.mapM step >>= fun found => pure found.flatten) = .ok all ∧
      ∀ item ∈ items, ∀ paths, step item = .ok paths → ∀ found ∈ paths, found ∈ all := by
  have total : items.mapM step = .ok (items.map fun item => (step item).toOption.getD []) := by
    refine Failure.mapM_eq_ok_map fun item isItem => ?_
    obtain ⟨paths, success⟩ := each item isItem
    rw [success]
    rfl
  refine ⟨_, by rw [total]; rfl, fun item isItem paths success found isFound => ?_⟩
  refine List.mem_flatten.mpr ⟨paths, List.mem_map.mpr ⟨item, isItem, ?_⟩, isFound⟩
  rw [success]
  rfl

/-- An entry that is no file lists entries itself. -/
theorem exists_mem_names_join (normal : files.IsNormal) (relative : isAbsolute path = false)
    (noFile : files.contains path = false) (member : name ∈ files.names (normalize path))
    (absent : files.contains (join path name) = false) :
    ∃ next, next ∈ files.names (normalize (join path name)) := by
  have ends : ¬ files.Loops path := not_loops_of_relative relative
  obtain ⟨nameRelative, deeper, -⟩ := components_join_of_mem_names normal noFile ends member
  have nextRelative := (isAbsolute_join nameRelative path).trans relative
  rcases names_cases normal noFile member with ⟨-, loops⟩ | ⟨key, isKey, opens, rest, parts, -⟩
  · exact absurd loops ends
  have keyRelative := opens.trans relative
  cases rest with
  | nil =>
      have stored := contains_of_components isKey (normal key isKey) nextRelative keyRelative
        (parts.trans deeper.symm)
      rw [absent] at stored
      cases stored
  | cons next more =>
      have further : components key = components (join path name) ++ next :: more := by
        rw [parts, deeper, List.append_assoc, List.singleton_append]
      have someParts : components (join path name) ≠ [] := by simp [deeper]
      exact ⟨next, mem_names_of_components someParts isKey (normal key isKey) nextRelative
        keyRelative further⟩

/-- From a relative path that lists an entry, a walk that accepts all files ends and finds one behind
this entry. -/
theorem exists_found_of_mem_names (normal : files.IsNormal) {fuel : Nat}
    (all : ∀ path, accepts path = true) (relative : isAbsolute path = false)
    (noFile : files.contains path = false) (member : name ∈ files.names (normalize path))
    (deep : files.depth + 2 ≤ fuel + (components path).length)
    (within : 0 < fuel ∨ (components path).length ≤ files.depth) :
    ∃ paths, FileStore.walkWithin files accepts fuel path = .ok paths ∧
      ∃ found ∈ paths, ∃ track, components found = components path ++ name :: track := by
  induction fuel generalizing path name with
  | zero => omega
  | succ fuel ih =>
      have ends : ¬ files.Loops path := not_loops_of_relative relative
      have each : ∀ other ∈ files.names (normalize path), ∃ paths,
          files.visit accepts fuel (join path other) = .ok paths ∧
            ∃ found ∈ paths, ∃ track, components found = components path ++ other :: track := by
        intro other isOther
        obtain ⟨otherRelative, deeper, short⟩ :=
          components_join_of_mem_names normal noFile ends isOther
        by_cases stored : files.contains (join path other) = true
        · refine ⟨_, visit_of_file (stat_of_contains stored), join path other, ?_, [], deeper⟩
          rw [all, if_pos rfl]
          exact List.mem_cons_self
        rw [Bool.not_eq_true] at stored
        obtain ⟨next, entry⟩ := exists_mem_names_join normal relative noFile isOther stored
        have nextDeep : files.depth + 2 ≤ fuel + (components (join path other)).length := by
          rw [deeper, List.length_append, List.length_singleton]
          omega
        obtain ⟨paths, walked, found, isFound, track, behind⟩ :=
          ih ((isAbsolute_join otherRelative path).trans relative) stored entry nextDeep (.inr short)
        refine ⟨paths, ?_, found, isFound, next :: track, ?_⟩
        · rw [visit_of_directory (stat_of_mem_names stored entry), walked]
        · rw [behind, deeper, List.append_assoc, List.singleton_append]
      have eachVisit : ∀ entry ∈ (files.names (normalize path)).map (join path), ∃ paths,
          files.visit accepts fuel entry = .ok paths := by
        intro entry isEntry
        obtain ⟨other, isOther, rfl⟩ := List.mem_map.mp isEntry
        obtain ⟨paths, visited, -⟩ := each other isOther
        exact ⟨paths, visited⟩
      obtain ⟨whole, success, holdsAll⟩ := exists_flatten_eq_ok eachVisit
      obtain ⟨paths, visited, found, isFound, behind⟩ := each name member
      refine ⟨whole, by rw [walkWithin_of_list (list_of_mem_names noFile member), success], found,
        ?_, behind⟩
      exact holdsAll _ (List.mem_map_of_mem member) paths visited found isFound

end MemoryFiles

end Companion
