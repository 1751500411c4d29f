import Companion.Files.AtomicWrite
import Companion.Proofs.Path.Normal
import Companion.Proofs.Text.Utf8
import Mathlib.Data.List.Nodup
import Mathlib.Data.List.Perm.Subperm

/-!
# What a write leaves behind

Whatever a write meets, what comes of it is the disk with perhaps some more directories, and on it
either all files as they were or one of them set to the whole text. The temporary file is gone, since
its place was free before: there are more names to choose from than places taken.
-/

set_option autoImplicit false

namespace Companion

namespace Disk

variable {disk later : Disk} {place : Place}

/-! ## Files by place -/

theorem isFile_iff : disk.isFile place = true ↔ place ∈ disk.files.map (·.1) := by
  simp [isFile, file?, List.lookup_isSome_iff]

theorem lookup_putFile (place other : Place) (bytes : Bytes) (files : List (Place × Bytes)) :
    (putFile place bytes files).lookup other =
      if other = place then some bytes else files.lookup other := by
  induction files with
  | nil =>
      by_cases same : other = place
      · simp [putFile, same]
      · simp [putFile, same]
  | cons file rest ih =>
      obtain ⟨held, old⟩ := file
      by_cases here : held = place
      · subst here
        rw [putFile, if_pos rfl, List.lookup_cons, List.lookup_cons]
        by_cases same : other = held
        · simp [same]
        · simp [same, beq_false_of_ne same]
      · rw [putFile, if_neg here, List.lookup_cons, List.lookup_cons, ih]
        by_cases same : other = held
        · subst same
          simp [here]
        · simp [beq_false_of_ne same]

/-- A file put where there was none can be removed again without a trace. -/
theorem filter_putFile {files : List (Place × Bytes)} (free : place ∉ files.map (·.1))
    (bytes : Bytes) : (putFile place bytes files).filter (·.1 ≠ place) = files := by
  induction files with
  | nil => simp [putFile]
  | cons file rest ih =>
      obtain ⟨held, old⟩ := file
      have different : held ≠ place := fun same => free (same ▸ List.mem_cons_self)
      have freeRest : place ∉ rest.map (·.1) := fun member => free (List.mem_cons_of_mem _ member)
      rw [putFile, if_neg different, List.filter_cons_of_pos (by simpa using different),
        ih freeRest]

theorem withoutFile_withFile (free : disk.isFile place = false) (bytes : Bytes) :
    (disk.withFile place bytes).withoutFile place = disk := by
  have absent : place ∉ disk.files.map (·.1) := by
    rw [← isFile_iff, free]
    exact Bool.false_ne_true
  rw [withFile, withoutFile, filter_putFile absent]

/-! ## Names and places -/

/-- What is entered as a name or as a step up. -/
def IsStep (name : Text) : Prop := name ≠ [] ∧ name ≠ ['.']

theorem areSteps_names (path : Text) : ∀ name ∈ names path, IsStep name := by
  intro name member
  simpa [IsStep] using (List.mem_filter.mp member).2

theorem enterName_of_ne_up {name : Text} (isStep : IsStep name) (notUp : name ≠ Path.up)
    (place : Place) : enterName place name = place ++ [name] := by
  simp [enterName, isStep.1, isStep.2, notUp]

/-- Empty names and single dots may be skipped where they lead nowhere else. -/
theorem foldl_names {α : Type} {enter : α → Text → α} (empty : ∀ base, enter base [] = base)
    (dot : ∀ base, enter base ['.'] = base) (base : α) (path : Text) :
    (names path).foldl enter base = (Text.splitOn '/' path).foldl enter base := by
  rw [names, List.foldl_filter]
  congr 1
  funext place name
  by_cases stays : name = [] ∨ name = ['.']
  · rcases stays with rfl | rfl <;> simp [empty, dot]
  · obtain ⟨some, noDot⟩ := not_or.mp stays
    simp [some, noDot]

theorem foldl_enterName_names (base : Place) (path : Text) :
    (names path).foldl enterName base = (Text.splitOn '/' path).foldl enterName base :=
  foldl_names (fun _ => rfl) (fun _ => rfl) base path

theorem follow_outside {names : List Text} {spot : Spot}
    (success : disk.follow .outside names = .ok spot) : spot = .outside := by
  induction names with
  | nil => exact (Except.ok.inj success).symm
  | cons name rest ih =>
      rw [follow, step] at success
      by_cases stays : (name.isEmpty || name = ['.'] || name = ['.', '.']) = true
      · rw [if_pos stays] at success
        exact ih success
      · rw [if_neg stays] at success
        cases success

/-- A step leads out of the tree or to the place that the name tells. -/
theorem step_inside {name : Text} {spot : Spot} (success : disk.step (.inside place) name = .ok spot) :
    spot = .outside ∨ spot = .inside (enterName place name) := by
  rw [step] at success
  split at success
  · cases success
  · split at success
    · next stays =>
      obtain rfl := Except.ok.inj success
      exact .inr (by rw [enterName, if_pos stays])
    · next moves =>
      split at success
      · next climbs =>
        obtain rfl := Except.ok.inj success
        split
        · exact .inl rfl
        · exact .inr (by rw [enterName, if_neg moves, if_pos climbs])
      · next descends =>
        split at success
        · cases success
        · dsimp only at success
          split at success
          · obtain rfl := Except.ok.inj success
            exact .inr (by rw [enterName, if_neg moves, if_neg descends])
          · cases success

/-- A step down from a directory leads to an entry or meets nothing. -/
theorem step_entry {name : Text} (directory : disk.isDirectory place = true) (isStep : IsStep name)
    (notUp : name ≠ Path.up) (short : isLongName name = false) :
    disk.step (.inside place) name =
      if disk.isDirectory (place ++ [name]) || disk.isFile (place ++ [name]) then
        .ok (.inside (place ++ [name]))
      else .error .missing := by
  have moves : (name.isEmpty || name = ['.']) = false := by simp [isStep.1, isStep.2]
  simp only [step, directory, moves, short, Bool.not_true, Bool.false_eq_true, ↓reduceIte]
  exact if_neg notUp

/-- Names that lead to a place of the tree lead to the one that they tell. -/
theorem follow_inside {names : List Text} {reached : Place}
    (success : disk.follow (.inside place) names = .ok (.inside reached)) :
    reached = names.foldl enterName place := by
  induction names generalizing place with
  | nil => exact (Spot.inside.inj (Except.ok.inj success)).symm
  | cons name rest ih =>
      rw [follow] at success
      cases taken : disk.step (.inside place) name with
      | error failure =>
          rw [taken] at success
          cases success
      | ok spot =>
          rw [taken] at success
          rcases step_inside taken with rfl | rfl
          · cases follow_outside success
          · exact ih success

/-- A path that starts in the tree starts where its spelling tells. -/
theorem place_of_start {path : Text} (begins : disk.start path = .inside place) :
    place = if Path.isAbsolute path then [] else disk.working.getD [] := by
  unfold start at begins
  cases working : disk.working with
  | none =>
      rw [working] at begins
      by_cases absolute : Path.isAbsolute path = true
      · simp [absolute] at begins
      · simpa [absolute] using begins.symm
  | some own =>
      rw [working] at begins
      exact (Spot.inside.inj begins).symm

/-- A relative path starts at the top that is the working directory. -/
theorem start_of_relative {path : Text} (working : disk.working = none)
    (relative : Path.isAbsolute path = false) : disk.start path = .inside [] := by
  rw [start, working, relative]
  rfl

/-- When all names of a path but the last one lead to a directory, the path names a place of it. -/
theorem placeOf_eq {path last : Text} {directory : Place}
    (found : disk.follow (disk.start path) (names path).dropLast = .ok (.inside directory))
    (final : (names path).getLast? = some last) (different : last ≠ ['.', '.']) :
    disk.placeOf path = directory ++ [last] := by
  have shape : names path = (names path).dropLast ++ [last] :=
    (List.dropLast_append_getLast? last final).symm
  have isStep : IsStep last := areSteps_names path last (List.mem_of_getLast? final)
  have entered := enterName_of_ne_up isStep different directory
  cases begins : disk.start path with
  | outside =>
      rw [begins] at found
      cases follow_outside found
  | inside place =>
      rw [begins] at found
      rw [placeOf, ← place_of_start begins, ← foldl_enterName_names, shape, List.foldl_concat,
        ← follow_inside found, entered]

/-! ## More directories -/

/-- A disk that differs from another one in having further directories. -/
structure IsExtendedBy (disk later : Disk) : Prop where
  files : later.files = disk.files
  working : later.working = disk.working
  outer : later.outer = disk.outer
  directories : disk.directories <+: later.directories

namespace IsExtendedBy

protected theorem refl (disk : Disk) : disk.IsExtendedBy disk := ⟨rfl, rfl, rfl, List.prefix_rfl⟩

protected theorem trans {first second third : Disk} (before : first.IsExtendedBy second)
    (after : second.IsExtendedBy third) : first.IsExtendedBy third :=
  ⟨after.files.trans before.files, after.working.trans before.working,
    after.outer.trans before.outer, before.directories.trans after.directories⟩

theorem placeOf_eq (extended : disk.IsExtendedBy later) (path : Text) :
    later.placeOf path = disk.placeOf path := by
  rw [placeOf, placeOf, extended.working]

theorem start_eq (extended : disk.IsExtendedBy later) (path : Text) :
    later.start path = disk.start path := by
  rw [start, start, extended.working]

theorem temporaryPath_eq (extended : disk.IsExtendedBy later) (path : Text) :
    AtomicWrite.temporaryPath later path = AtomicWrite.temporaryPath disk path := by
  rw [AtomicWrite.temporaryPath, AtomicWrite.temporaryPath, workingPath, workingPath,
    extended.working, extended.outer]

theorem withDirectory (disk : Disk) (place : Place) :
    disk.IsExtendedBy (disk.withDirectory place) := by
  unfold Disk.withDirectory
  split
  · exact .refl disk
  · exact ⟨rfl, rfl, rfl, List.prefix_append _ _⟩

theorem makeDirectory {spot : Spot} {above : List Text} {name : Text}
    (success : disk.makeDirectory spot above name = .ok later) : disk.IsExtendedBy later := by
  unfold Disk.makeDirectory at success
  split at success
  · cases success
  · split at success
    · cases success
    · split at success
      · obtain rfl := Except.ok.inj success
        exact withDirectory disk _
      · cases success
    · cases success

end IsExtendedBy

end Disk

namespace AtomicWrite

open Disk

variable {faults : WriteFaults} {validate : Text → Except Failure Unit} {disk later : Disk}

theorem makeOne_extends {again : Bool} {spot : Spot} {name : Text} {above : List Text}
    (success : makeOne faults again disk spot name above = .ok later) : disk.IsExtendedBy later := by
  unfold makeOne at success
  split at success
  · cases success
  · exact .makeDirectory success

/-- Making directories makes directories, also when it fails half way. -/
theorem ensureDirectory_extends (faults : WriteFaults) (disk : Disk) (spot : Spot)
    (names : List Text) : disk.IsExtendedBy (ensureDirectory faults disk spot names).2 := by
  induction names with
  | nil =>
      rw [ensureDirectory]
      split <;> exact .refl disk
  | cons name above ih =>
      rw [ensureDirectory]
      split
      · next made => exact makeOne_extends made
      · split
        · next stopped =>
          rw [stopped] at ih
          exact ih
        · next between reached =>
          rw [reached] at ih
          split
          · next made => exact ih.trans (makeOne_extends made)
          · split <;> exact ih
      · split <;> exact .refl disk

/-! ## Temporary files -/

/-- The number of a temporary file can be read off its name. -/
theorem temporaryName_injective (name : Text) : Function.Injective (temporaryName name) := by
  have read : ∀ number, Nat.ofDigitChars 10
      (List.replicate (8 - (Text.ofNat number).length) '0' ++ Text.ofNat number) 0 = number := by
    intro number
    rw [Nat.ofDigitChars_append, Nat.ofDigitChars_replicate_zero, Nat.mul_zero, Text.ofNat,
      Nat.toString_eq_repr, Nat.toList_repr,
      Nat.ofDigitChars_toDigits (by decide) (Nat.le_refl 10)]
  intro number other same
  have digits : List.replicate (8 - (Text.ofNat number).length) '0' ++ Text.ofNat number =
      List.replicate (8 - (Text.ofNat other).length) '0' ++ Text.ofNat other := by
    have spelled := same
    simp only [temporaryName, List.append_assoc, List.append_cancel_left_eq] at spelled
    rw [← List.append_assoc, ← List.append_assoc] at spelled
    exact List.append_cancel_right spelled
  rw [← read number, ← read other, digits]

/-- The temporary file of a name needs fourteen more bytes. -/
theorem length_encode_temporaryName (name : Text) :
    (Utf8.encode (temporaryName name 0)).length = (Utf8.encode name).length + 14 := by
  have shape : temporaryName name 0 = "." ++ (name ++ ".00000000.tmp".toList) := by
    simp [temporaryName, Text.ofNat]
  have ending : (Utf8.encode ".00000000.tmp").length = 13 := rfl
  have opening : (Utf8.encode ".").length = 1 := rfl
  rw [shape, Utf8.encode_append, Utf8.encode_append, List.length_append, List.length_append, opening,
    ending]
  omega

/-- There is nothing at the place chosen for a temporary file: the places taken are fewer than those
to choose from. -/
theorem isFile_freshPlace (disk : Disk) (directory : Place) (name : Text) :
    disk.isFile (freshPlace disk directory name) = false := by
  unfold freshPlace
  dsimp only
  generalize count : disk.files.length + disk.directories.length + 1 = total
  cases found : ((List.range total).map fun number =>
      directory ++ [temporaryName name number]).find? fun place =>
        !disk.isDirectory place && !disk.isFile place with
  | some place =>
      have free := List.find?_some found
      rw [Option.getD_some]
      simpa using (Bool.and_eq_true_iff.mp free).2
  | none =>
      exfalso
      have injective : Function.Injective fun number => directory ++ [temporaryName name number] :=
        fun number other same => temporaryName_injective name (by simpa using same)
      have taken : (List.range total).map (fun number => directory ++ [temporaryName name number]) ⊆
          disk.files.map (·.1) ++ disk.directories := by
        intro place member
        have occupied := List.find?_eq_none.mp found place member
        obtain ⟨number, _, rfl⟩ := List.mem_map.mp member
        rw [List.mem_append, ← isFile_iff]
        by_cases isFile : disk.isFile (directory ++ [temporaryName name number]) = true
        · exact .inl isFile
        · exact .inr (by simpa [isDirectory, isFile] using occupied)
      have fits := (((List.nodup_range (n := total)).map injective).subperm taken).length_le
      simp only [List.length_map, List.length_range, List.length_append] at fits
      omega

/-! ## Writes -/

theorem replace_eq_ok {temporary directory : Place} {path : Text} {bytes : Bytes}
    (success : replace faults disk temporary directory path bytes = .ok later) :
    ∃ last, (names path).getLast? = some last ∧ last ≠ ['.', '.'] ∧
      later = (disk.withoutFile temporary).withFile (directory ++ [last]) bytes := by
  unfold replace at success
  split at success
  · cases success
  · cases success
  · cases success
  · next last _ _ final =>
    split at success
    · cases success
    · next different =>
      split at success
      · cases success
      · exact ⟨last, final, different, (Except.ok.inj success).symm⟩

/-- A write in a directory fails and changes nothing, or the file holds the text and nothing else has
changed. -/
theorem writeIn_cases (faults : WriteFaults) (validate : Text → Except Failure Unit) (disk : Disk)
    (directory : Place) (path text : Text) :
    (∃ failure, writeIn faults validate disk directory path text = (.error failure, disk)) ∨
      ∃ last, (names path).getLast? = some last ∧ last ≠ ['.', '.'] ∧
        writeIn faults validate disk directory path text =
          (.ok (), disk.withFile (directory ++ [last]) (Utf8.encode text)) := by
  have removed := fun bytes =>
    withoutFile_withFile (isFile_freshPlace disk directory ((names path).getLast?.getD [])) bytes
  unfold writeIn
  dsimp only
  split
  · exact .inl ⟨_, rfl⟩
  · split
    · exact .inl ⟨_, rfl⟩
    · split
      · exact .inl ⟨_, by rw [removed]⟩
      · split
        · exact .inl ⟨_, by rw [removed]⟩
        · split
          · exact .inl ⟨_, by rw [removed]⟩
          · next replaced =>
            obtain ⟨last, final, different, rfl⟩ := replace_eq_ok replaced
            exact .inr ⟨last, final, different, by rw [removed]⟩

/-- Where no directory stands, a name with room for that of a temporary file can be written. -/
theorem writeIn_eq_ok {directory : Place} {path last : Text} (passes : refusal? (tidy path) = none)
    (final : (names path).getLast? = some last)
    (fits : isLongName (temporaryName last 0) = false) (different : last ≠ ['.', '.'])
    (free : disk.isDirectory (directory ++ [last]) = false) (text : Text) :
    writeIn {} acceptAll disk directory path text =
      (.ok (), disk.withFile (directory ++ [last]) (Utf8.encode text)) := by
  have replaced : ∀ temporary bytes,
      replace {} (disk.withFile temporary bytes) temporary directory path bytes =
        .ok (((disk.withFile temporary bytes).withoutFile temporary).withFile
          (directory ++ [last]) bytes) := by
    intro temporary bytes
    have stillFree : (disk.withFile temporary bytes).isDirectory (directory ++ [last]) = false := free
    simp only [replace, passes, final, if_neg different, stillFree, Bool.false_eq_true, ↓reduceIte]
  simp only [writeIn, final, Option.getD_some, fits, Bool.false_eq_true, ↓reduceIte, acceptAll,
    replaced, withoutFile_withFile (isFile_freshPlace disk directory last)]

/-- A write makes directories, and then it fails or sets one file to the whole text. -/
theorem write_cases (faults : WriteFaults) (validate : Text → Except Failure Unit) (disk : Disk)
    (path text : Text) :
    ∃ between, disk.IsExtendedBy between ∧
      ((∃ failure, write faults validate disk path text = (.error failure, between)) ∨
        write faults validate disk path text =
          (.ok (), between.withFile (disk.placeOf path) (Utf8.encode text))) := by
  have extended := ensureDirectory_extends faults disk (disk.start path)
    (names path).dropLast.reverse
  unfold write
  dsimp only
  split
  · exact ⟨disk, .refl disk, .inl ⟨_, rfl⟩⟩
  split
  · next failure between stopped =>
    rw [stopped] at extended
    exact ⟨between, extended, .inl ⟨_, rfl⟩⟩
  · next between made =>
    rw [made] at extended
    refine ⟨between, extended, ?_⟩
    split
    · exact .inl ⟨_, rfl⟩
    · exact .inl ⟨_, rfl⟩
    · exact .inl ⟨_, rfl⟩
    · next directory _ found =>
      rcases writeIn_cases faults validate between directory path text with
        failed | ⟨last, final, different, written⟩
      · exact .inl failed
      · have place := placeOf_eq (extended.start_eq path ▸ found) final different
        rw [extended.placeOf_eq] at place
        exact .inr (place ▸ written)

end AtomicWrite

end Companion
