import Companion.Proofs.Files.Descent

/-!
# Consistent files in memory

What the operations on files in memory tell of one path, each of them from the keys alone, fits
together whatever has been written: a file can be read, a directory can be listed, and nothing is
both. The entries of a listing divide what lies below a directory among them, as long as no step up
is left and the double slash stays out of the paths.
-/

set_option autoImplicit false

namespace Companion

/-! ## Operations -/

namespace FileStore

/-- One use of a store. -/
inductive Operation where
  | read (path : Text)
  | write (path text : Text)
  | list (path : Text)
  | stat (path : Text)

/-- The path that a store is asked about. -/
def Operation.path : Operation → Text
  | .read path => path
  | .write path _ => path
  | .list path => path
  | .stat path => path

/-- What a use of a store gives. -/
inductive Answer where
  | text (text : Text)
  | done
  | entries (entries : List Text)
  | status (status : PathStatus)

/-- The outcome of a use of a store, and the store after it. -/
def perform {σ : Type} [FileStore σ] (store : σ) : Operation → Except Failure Answer × σ
  | .read path => ((read store path).map .text, store)
  | .write path text =>
    let (outcome, later) := write store path text
    (outcome.map fun _ => .done, later)
  | .list path => ((list store path).map .entries, store)
  | .stat path => ((stat store path).map .status, store)

end FileStore

/-! ## Directories and what lies below them -/

namespace Path

/-- The path leads to a directory or to something below it. -/
def IsWithin (path directory : Text) : Prop :=
  rootSlashes path = rootSlashes directory ∧ components directory <+: components path

/-- The path leads to something below a directory. -/
def IsBelow (path directory : Text) : Prop :=
  IsWithin path directory ∧ components path ≠ components directory

variable {path directory : Text} {rooted : Bool} {names : List Text}

theorem IsBelow.exists_components (below : IsBelow path directory) :
    ∃ name rest, components path = components directory ++ name :: rest := by
  obtain ⟨⟨-, rest, whole⟩, different⟩ := below
  cases rest with
  | nil => exact absurd (whole.symm.trans (List.append_nil _)) different
  | cons name rest => exact ⟨name, rest, whole.symm⟩

end Path

namespace MemoryFiles

open Companion.Path

/-- What is told of a path by different operations. -/
structure IsConsistentAt (files : MemoryFiles) (path : Text) : Prop where
  file_iff_read : files.contains path = true ↔ ∃ text, files.read path = .ok text
  file_iff_stat : files.contains path = true ↔
    ∃ status, files.stat path = .ok status ∧ status.isFile = true
  directory_iff : (∃ entries, files.list path = .ok entries) ↔
    ∃ status, files.stat path = .ok status ∧ status.isDirectory = true
  not_both : ∀ status, files.stat path = .ok status →
    ¬ (status.isFile = true ∧ status.isDirectory = true)

/-- The entries of a directory: paths that exist, each of them once and ordered by their last
components. A file below the directory is one of them or lies below one, and never below two. -/
structure IsListing (files : MemoryFiles) (directory : Text) (entries : List Text) : Prop where
  nodup : entries.Nodup
  ascending : Text.Ascending (entries.map base)
  exist : ∀ entry ∈ entries, ∃ status, files.stat entry = .ok status
  divides : ∀ file, files.contains file = true → IsBelow file directory →
    ∃! entry, entry ∈ entries ∧ IsWithin file entry

variable {files : MemoryFiles} {path name : Text}

/-! ## One path -/

/-- All operations agree on a path: it is a file, a directory, or nothing at all. -/
inductive Tells (files : MemoryFiles) (path : Text) : Prop where
  | file (text : Text) :
      files.contains path = true → files.read path = .ok text →
      files.list path = .error (.fileNotFound path) →
      files.stat path = .ok { isFile := true } → Tells files path
  | directory (entries : List Text) :
      files.contains path = false → files.read path = .error (.fileNotFound path) →
      files.list path = .ok entries →
      files.stat path = .ok { isDirectory := true } → Tells files path
  | missing :
      files.contains path = false → files.read path = .error (.fileNotFound path) →
      files.list path = .error (.fileNotFound path) →
      files.stat path = .error (.fileNotFound path) → Tells files path

theorem names_ne_nil_iff : files.names (normalize path) ≠ [] ↔
    (files.keys.any fun other => (properlyBelow? (normalize path) other).isSome) = true := by
  rw [List.any_eq_true]
  constructor
  · intro some
    obtain ⟨name, member⟩ := List.exists_mem_of_ne_nil _ some
    obtain ⟨key, isKey, way, below, -⟩ := mem_names_iff_exists_way.mp member
    exact ⟨key, isKey, Option.isSome_of_eq_some below⟩
  · intro listed
    obtain ⟨key, isKey, below⟩ := listed
    obtain ⟨way, below⟩ := Option.isSome_iff_exists.mp below
    exact List.ne_nil_of_mem (mem_names_iff_exists_way.mpr ⟨key, isKey, way, below, rfl⟩)

/-- Where there is no file, both listing and the question what the path is ask for the same. -/
theorem list_of_noFile (noFile : files.contains path = false) :
    files.list path =
      if normalize path = ['.'] ∨ files.names (normalize path) ≠ [] then
        .ok ((files.names (normalize path)).map (join path))
      else .error (.fileNotFound path) := by
  rw [contains] at noFile
  rw [list, noFile]
  by_cases dot : normalize path = ['.']
  · simp [dot]
  · by_cases nothing : files.names (normalize path) = [] <;> simp [dot, nothing]

theorem stat_of_noFile (noFile : files.contains path = false) :
    files.stat path =
      if normalize path = ['.'] ∨ files.names (normalize path) ≠ [] then
        .ok { isDirectory := true }
      else .error (.fileNotFound path) := by
  rw [contains] at noFile
  rw [stat, noFile]
  simp only [Bool.false_eq_true, ↓reduceIte, Bool.or_eq_true, decide_eq_true_eq, names_ne_nil_iff]

theorem tells (files : MemoryFiles) (path : Text) : files.Tells path := by
  cases held : files.get? (normalize path) with
  | some text =>
      have stored : files.contains path = true := by rw [contains, held, Option.isSome_some]
      refine .file text stored ?_ ?_ (stat_of_contains stored)
      · rw [read, held]
      · simp [list, held]
  | none =>
      have noFile : files.contains path = false := by rw [contains, held, Option.isSome_none]
      have unread : files.read path = .error (.fileNotFound path) := by rw [read, held]
      have listed := list_of_noFile noFile
      have told := stat_of_noFile noFile
      by_cases isDirectory : normalize path = ['.'] ∨ files.names (normalize path) ≠ []
      · rw [if_pos isDirectory] at listed told
        exact .directory _ noFile unread listed told
      · rw [if_neg isDirectory] at listed told
        exact .missing noFile unread listed told

theorem isConsistentAt (files : MemoryFiles) (path : Text) : files.IsConsistentAt path := by
  cases files.tells path with
  | file text stored found unlisted told => constructor <;> simp [stored, found, unlisted, told]
  | directory entries noFile unread listed told =>
      constructor <;> simp [noFile, unread, listed, told]
  | missing noFile unread unlisted untold =>
      constructor <;> simp [noFile, unread, unlisted, untold]

/-- A use that fails names the path that it was about and changes nothing. -/
theorem perform_eq_error {operation : FileStore.Operation} {failure : Failure}
    {later : MemoryFiles} (fails : FileStore.perform files operation = (.error failure, later)) :
    failure = .fileNotFound operation.path ∧ later = files := by
  cases operation with
  | write path text => exact absurd (congrArg Prod.fst fails) nofun
  | read path =>
      obtain ⟨outcome, rfl⟩ := Prod.mk.inj fails
      have failed : files.read path = .error failure := Failure.eq_error_of_map outcome
      cases files.tells path <;> simp_all [FileStore.Operation.path]
  | list path =>
      obtain ⟨outcome, rfl⟩ := Prod.mk.inj fails
      have failed : files.list path = .error failure := Failure.eq_error_of_map outcome
      cases files.tells path <;> simp_all [FileStore.Operation.path]
  | stat path =>
      obtain ⟨outcome, rfl⟩ := Prod.mk.inj fails
      have failed : files.stat path = .error failure := Failure.eq_error_of_map outcome
      cases files.tells path <;> simp_all [FileStore.Operation.path]

/-! ## Listings -/

/-- All files are kept under normal forms without steps up and without the double slash. -/
def IsOrdinary (files : MemoryFiles) : Prop :=
  ∀ key ∈ files.keys, normalize key = key ∧ Path.IsOrdinary key

variable {rooted : Bool} {names : List Text}

/-- A key with components is put together from them. -/
theorem IsOrdinary.holds (ordinary : files.IsOrdinary) {key : Text} (isKey : key ∈ files.keys)
    (opens : isAbsolute key = rooted) (parts : components key = names) (some : names ≠ []) :
    files.Holds rooted names := by
  obtain ⟨normal, keyRooted, keyNames, leads⟩ := ordinary key isKey
  obtain rfl : keyRooted = rooted := leads.isAbsolute_eq.symm.trans opens
  obtain rfl : keyNames = names := leads.components.symm.trans parts
  refine ⟨leads.areNames, ?_⟩
  rwa [← leads.normalize_eq some, normal]

theorem IsOrdinary.not_loops (ordinary : files.IsOrdinary) : ¬ files.Loops path := by
  intro loops
  obtain ⟨-, -, -, rest, isKey⟩ := loops
  obtain ⟨normal, rooted, names, leads⟩ := ordinary _ isKey
  obtain rfl : rooted = true := leads.isAbsolute_eq.symm
  by_cases none : names = []
  · subst none
    rw [leads.normalize_eq_of_nil] at normal
    simp at normal
  · -- behind the slash of the root the key goes on with a name
    rw [leads.normalize_eq none] at normal
    have opens : Text.join ['/'] names = '/' :: rest := List.tail_eq_of_cons_eq normal
    have relative : isAbsolute (Text.join ['/'] names) = false :=
      isAbsolute_join_parts fun name member => (leads.areNames name member).isPart
    rw [opens] at relative
    cases relative

/-- A directory lists the names that go on from it to a file, also when the root or the working
directory itself is a file. -/
theorem IsOrdinary.mem_names_iff (ordinary : files.IsOrdinary) (leads : LeadsTo path rooted names)
    (noFile : files.contains path = false) :
    name ∈ files.names (normalize path) ↔ ∃ rest, files.Holds rooted (names ++ name :: rest) := by
  constructor
  · intro member
    have normal : files.IsNormal := fun key isKey => (ordinary key isKey).1
    obtain ⟨-, loops⟩ | ⟨key, isKey, opens, rest, parts, -⟩ := names_cases normal noFile member
    · exact absurd loops ordinary.not_loops
    · rw [leads.components] at parts
      exact ⟨rest, ordinary.holds isKey (opens.trans leads.isAbsolute_eq) parts (by simp)⟩
  · intro behind
    obtain ⟨rest, areNames, isKey⟩ := behind
    have pieces := splitOn_join_names (List.cons_ne_nil name rest)
      fun part member => areNames part (List.mem_append_right _ member)
    have below : properlyBelow? (normalize path) (ofNames rooted (names ++ name :: rest)) =
        some (Text.join ['/'] (name :: rest)) :=
      (properlyBelow?_eq_some_iff leads (by simp) areNames).mpr ⟨rfl, by rw [pieces]⟩
    have first := Text.head?_splitOn '/' (Text.join ['/'] (name :: rest))
    rw [pieces, List.head?_cons, Option.some.injEq] at first
    exact mem_names_iff_exists_way.mpr ⟨_, isKey, _, below, first.symm⟩

/-- An entry that goes on from a directory to a file is this file or a directory. -/
theorem IsOrdinary.exists_stat (ordinary : files.IsOrdinary) (leads : LeadsTo path rooted names)
    {rest : List Text} (holds : files.Holds rooted (names ++ rest)) (some : names ≠ []) :
    ∃ status, files.stat path = .ok status := by
  cases stored : files.contains path with
  | true => exact ⟨_, stat_of_contains stored⟩
  | false =>
      cases rest with
      | nil =>
          rw [List.append_nil] at holds
          rw [contains_eq_false_iff, leads.normalize_eq some] at stored
          exact absurd holds.2 stored
      | cons next more =>
          have listed := (ordinary.mem_names_iff leads stored).mpr ⟨more, holds⟩
          exact ⟨_, stat_of_mem_names stored listed⟩

/-- A file is held at the place that its path leads to. -/
theorem IsOrdinary.holds_of_contains (ordinary : files.IsOrdinary)
    (stored : files.contains path = true) (opens : isAbsolute path = rooted)
    (parts : components path = names) (some : names ≠ []) : files.Holds rooted names := by
  rw [contains, get?_isSome_iff] at stored
  exact ordinary.holds stored ((isAbsolute_normalize path).trans opens)
    ((components_normalize path).trans parts) some

theorem IsOrdinary.isListing (ordinary : files.IsOrdinary) (leads : LeadsTo path rooted names)
    (noFile : files.contains path = false) :
    files.IsListing path ((files.names (normalize path)).map (join path)) := by
  have listed (name : Text) : name ∈ files.names (normalize path) ↔
      ∃ rest, files.Holds rooted (names ++ name :: rest) := ordinary.mem_names_iff leads noFile
  have isName : ∀ name ∈ files.names (normalize path), IsName name := by
    intro name member
    obtain ⟨rest, areNames, -⟩ := (listed name).mp member
    exact areNames name (by simp)
  have bases := calc ((files.names (normalize path)).map (join path)).map base
      _ = (files.names (normalize path)).map (base ∘ join path) := List.map_map
      _ = (files.names (normalize path)).map id := List.map_congr_left fun name member =>
        base_join (isName name member).2.2.2 path
      _ = files.names (normalize path) := List.map_id _
  have ascending : Text.Ascending (files.names (normalize path)) := Text.ascending_sortedDistinct _
  constructor
  · apply List.Nodup.of_map base
    rw [bases]
    exact ascending.nodup
  · rw [bases]
    exact ascending
  · intro entry member
    obtain ⟨name, isListed, rfl⟩ := List.mem_map.mp member
    obtain ⟨rest, holds⟩ := (listed name).mp isListed
    rw [List.append_cons] at holds
    exact ordinary.exists_stat (leads.join (isName name isListed)) holds (by simp)
  · intro file stored below
    obtain ⟨name, rest, parts⟩ := below.exists_components
    have opens : isAbsolute file = rooted := (isAbsolute_congr below.1.1).trans leads.isAbsolute_eq
    rw [leads.components] at parts
    have holds := ordinary.holds_of_contains stored opens parts (by simp)
    have isListed := (listed name).mpr ⟨rest, holds⟩
    have entryWithin : ∀ other ∈ files.names (normalize path),
        IsWithin file (join path other) ↔ other = name := by
      intro other member
      have next := leads.join (isName other member)
      rw [IsWithin, next.opens, ← leads.opens, next.components, parts]
      simp [below.1.1]
    refine ⟨join path name, ⟨List.mem_map_of_mem isListed, (entryWithin name isListed).mpr rfl⟩, ?_⟩
    intro entry holder
    obtain ⟨other, otherListed, rfl⟩ := List.mem_map.mp holder.1
    rw [(entryWithin other otherListed).mp holder.2]

/-! ## Written files -/

variable {writes : List (Text × Text)}

theorem isOrdinary_ofList (ordinary : ∀ written ∈ writes.map (·.1), Path.IsOrdinary written) :
    (ofList writes).IsOrdinary := by
  intro key isKey
  cases mem_keys_writeTexts.mp isKey with
  | inl before => cases before
  | inr after =>
      obtain ⟨written, member, rfl⟩ := after
      obtain ⟨rooted, names, leads⟩ := ordinary written member
      exact ⟨normalize_normalize written, rooted, names, leads.normalize⟩

theorem read_ofList_eq_ok_iff {text : Text} :
    (ofList writes).read path = .ok text ↔ lastText? writes path = some text := by
  rw [show ofList writes = writeTexts {} writes from rfl, read_writeTexts]
  cases lastText? writes path with
  | some last => simp
  | none =>
      have unread : read {} path = .error (.fileNotFound path) := rfl
      simp [unread]

/-- Whatever is written, by paths of any spelling, the operations agree on every path: what is there
can be read, and gives the text written last under any spelling of the path, or can be listed, and
not both; what fails is told by its path and changes nothing. Without steps up and double slashes a
listing is also complete: its entries exist, in order, and each file below the directory belongs to
one of them. -/
theorem ofList_consistent (writes : List (Text × Text)) (path : Text) :
    (ofList writes).IsConsistentAt path ∧
      (∀ text, (ofList writes).read path = .ok text ↔ lastText? writes path = some text) ∧
      (∀ operation failure later,
        FileStore.perform (ofList writes) operation = (.error failure, later) →
          failure = .fileNotFound operation.path ∧ later = ofList writes) ∧
      ((∀ involved ∈ path :: writes.map (·.1),
          involved.startsWith "//" = false ∧ up ∉ components involved) →
        ∀ entries, (ofList writes).list path = .ok entries →
          (ofList writes).IsListing path entries) := by
  refine ⟨isConsistentAt _ path, fun text => read_ofList_eq_ok_iff,
    fun operation failure later => perform_eq_error, fun single entries listed => ?_⟩
  have ordinary : ∀ involved ∈ path :: writes.map (·.1), Path.IsOrdinary involved := by
    intro involved member
    obtain ⟨opens, noStepUp⟩ := single involved member
    exact isOrdinary_of_startsWith opens noStepUp
  obtain ⟨rooted, names, leads⟩ := ordinary path List.mem_cons_self
  have files : (ofList writes).IsOrdinary := isOrdinary_ofList fun written member =>
    ordinary written (List.mem_cons_of_mem _ member)
  obtain ⟨noFile, found⟩ | failed := list_cases (ofList writes) path
  · obtain rfl := Except.ok.inj (found.symm.trans listed)
    exact files.isListing leads noFile
  · exact absurd (failed.symm.trans listed) nofun

/-- A directory with a directory and a file that was written twice. -/
theorem ofList_consistent_twice :
    let writes : List (Text × Text) :=
      [("src/a/b.ts", "b"), ("./src/c.ts", "old"), ("src/a/../c.ts", "new")]
    (∀ involved : Text, involved ∈ ("src/" : Text) :: writes.map (·.1) →
        involved.startsWith "//" = false ∧ up ∉ components involved) ∧
      (ofList writes).read "src//c.ts" = .ok "new" ∧
      (ofList writes).IsListing "src/" ["src/a", "src/c.ts"] := by
  intro writes
  have single : ∀ involved : Text, involved ∈ ("src/" : Text) :: writes.map (·.1) →
      involved.startsWith "//" = false ∧ up ∉ components involved := by decide
  obtain ⟨-, -, -, listing⟩ := ofList_consistent writes "src/"
  obtain ⟨-, reading, -⟩ := ofList_consistent writes "src//c.ts"
  exact ⟨single, (reading _).mpr rfl, listing single _ rfl⟩

end MemoryFiles

end Companion
