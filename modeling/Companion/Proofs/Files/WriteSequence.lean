import Companion.Proofs.Failure
import Companion.Proofs.Files.Ways

/-!
# Sequences of atomic writes

One write after the other on the same disk, each with its own faults and its own validator. Every
call goes through the same steps. It raises what the first step raises that fails, and then all files
are as they were before it; when no step fails, the text is found where the path leads, and all other
files are as before.
-/

set_option autoImplicit false

namespace Companion

namespace Disk

open Companion.Path (up)

variable {disk later : Disk} {place : Place} {spot next : Spot} {name : Text} {way : List Text}

/-! ## Ways on a disk that holds more -/

/-- Steps lead on from directories only. -/
theorem isDirectory_of_step (taken : disk.step (.inside place) name ≠ .error .notDirectory) :
    disk.isDirectory place = true := by
  by_contra absent
  rw [Bool.not_eq_true] at absent
  exact taken (by simp [step, absent])

/-- All places of a disk are there on another one as well. -/
structure IsKeptBy (disk later : Disk) : Prop where
  working : later.working = disk.working
  directory : ∀ {place : Place}, disk.isDirectory place = true → later.isDirectory place = true
  file : ∀ {place : Place}, disk.isFile place = true → later.isFile place = true

namespace IsKeptBy

protected theorem trans {first second third : Disk} (before : first.IsKeptBy second)
    (after : second.IsKeptBy third) : first.IsKeptBy third where
  working := after.working.trans before.working
  directory := fun there => after.directory (before.directory there)
  file := fun there => after.file (before.file there)

theorem withFile (disk : Disk) (place : Place) (bytes : Bytes) :
    disk.IsKeptBy (disk.withFile place bytes) where
  working := rfl
  directory := id
  file := by
    intro other there
    rw [isFile, file?, Disk.withFile, lookup_putFile]
    split
    · rfl
    · exact there

theorem start_eq (kept : disk.IsKeptBy later) (path : Text) :
    later.start path = disk.start path := by
  rw [start, start, kept.working]

/-- A step that leads somewhere leads there on the disk that holds more. -/
theorem step (kept : disk.IsKeptBy later) (taken : disk.step spot name = .ok next) :
    later.step spot name = .ok next := by
  cases spot with
  | outside => exact taken
  | inside place =>
      have directory := isDirectory_of_step (by rw [taken]; exact nofun)
      have laterDirectory := kept.directory directory
      have rooted : later.isRooted = disk.isRooted := by rw [isRooted, isRooted, kept.working]
      by_cases stays : name = [] ∨ name = ['.']
      · cases stays with
        | inl empty => simp_all [Disk.step]
        | inr dot => simp_all [Disk.step]
      by_cases isUp : name = up
      · simp_all [Disk.step]
      cases short : isLongName name with
      | true => simp_all [Disk.step]
      | false =>
          rw [step_entry directory (not_or.mp stays) isUp short] at taken
          rw [step_entry laterDirectory (not_or.mp stays) isUp short]
          split at taken
          · next there =>
            rw [Bool.or_eq_true] at there
            rw [if_pos (Bool.or_eq_true_iff.mpr (there.imp kept.directory kept.file))]
            exact taken
          · cases taken

theorem follow (kept : disk.IsKeptBy later) (found : disk.follow spot way = .ok next) :
    later.follow spot way = .ok next := by
  induction way generalizing spot with
  | nil => exact found
  | cons name rest ih =>
      rw [Disk.follow] at found ⊢
      cases taken : disk.step spot name with
      | error failure =>
          rw [taken] at found
          cases found
      | ok between =>
          rw [taken] at found
          rw [kept.step taken]
          exact ih found

end IsKeptBy

theorem IsExtendedBy.isKeptBy (extended : disk.IsExtendedBy later) : disk.IsKeptBy later where
  working := extended.working
  directory := by
    intro place there
    rw [isDirectory, Bool.or_eq_true] at there ⊢
    exact there.imp_right fun member =>
      List.contains_iff_mem.mpr (extended.directories.subset (List.contains_iff_mem.mp member))
  file := by
    intro place there
    rw [isFile, file?, extended.files]
    exact there

/-- The working directory is a directory. -/
def HasWorkingDirectory (disk : Disk) : Prop :=
  ∀ place, disk.working = some place → disk.isDirectory place = true

theorem HasWorkingDirectory.isDirectorySpot_start (home : disk.HasWorkingDirectory) (path : Text) :
    disk.isDirectorySpot (disk.start path) = true := by
  unfold start
  cases working : disk.working with
  | none => cases Path.isAbsolute path <;> rfl
  | some place =>
      cases Path.isAbsolute path with
      | true => rfl
      | false => exact home place working

theorem IsKeptBy.hasWorkingDirectory (kept : disk.IsKeptBy later)
    (home : disk.HasWorkingDirectory) : later.HasWorkingDirectory :=
  fun place working => kept.directory (home place (kept.working.symm.trans working))

/-- A step that meets nothing is one down from a directory. -/
theorem step_eq_missing (missing : disk.step (.inside place) name = .error .missing) :
    disk.isDirectory place = true ∧ IsStep name ∧ name ≠ up ∧ isLongName name = false := by
  have directory := isDirectory_of_step (by rw [missing]; exact nofun)
  have moves : IsStep name := by
    constructor
    · intro empty
      simp [step, directory, empty] at missing
    · intro dot
      simp [step, directory, dot] at missing
  have notUp : name ≠ up := by
    intro isUp
    simp [step, directory, isUp] at missing
  have short : isLongName name = false := by
    by_contra long
    simp_all [step, IsStep]
  exact ⟨directory, moves, notUp, short⟩

/-- A file put where the last name of a path leads to is found behind the path. -/
theorem find_withFile {path last : Text}
    (found : disk.follow (disk.start path) (names path).dropLast = .ok (.inside place))
    (directory : disk.isDirectory place = true) (final : (names path).getLast? = some last)
    (notUp : last ≠ up) (short : isLongName last = false) (bytes : Bytes) :
    (disk.withFile (place ++ [last]) bytes).find path = .ok (.inside (place ++ [last])) := by
  have kept := IsKeptBy.withFile disk (place ++ [last]) bytes
  have way : names path = (names path).dropLast ++ [last] :=
    (List.dropLast_append_getLast? last final).symm
  have isStep : IsStep last := areSteps_names path last (List.mem_of_getLast? final)
  have there : (disk.withFile (place ++ [last]) bytes).isFile (place ++ [last]) = true := by
    rw [isFile, file?, withFile, lookup_putFile, if_pos rfl]
    rfl
  rw [find, way, follow_concat, kept.start_eq, kept.follow found]
  dsimp only
  rw [step_entry (kept.directory directory) isStep notUp short, there, Bool.or_true, if_pos rfl]

/-- A directory that has been made is found behind the names that it was made by. -/
theorem follow_of_makeDirectory {above : List Text}
    (made : disk.makeDirectory spot above name = .ok later) :
    ∃ place, later.follow spot (above ++ [name]) = .ok (.inside place) ∧
      later.isDirectory place = true := by
  have kept := (IsExtendedBy.makeDirectory made).isKeptBy
  unfold makeDirectory at made
  split at made
  · cases made
  next parent found =>
  split at made
  · cases made
  · next missing =>
    cases parent with
    | outside => cases made
    | inside place =>
        obtain rfl := Except.ok.inj made
        obtain ⟨directory, isStep, notUp, short⟩ := step_eq_missing missing
        have there : (disk.withDirectory (place ++ [name])).isDirectory (place ++ [name]) = true :=
          isDirectory_withDirectory_iff.mpr (.inr rfl)
        refine ⟨place ++ [name], ?_, there⟩
        rw [follow_concat, kept.follow found]
        dsimp only
        rw [step_entry (kept.directory directory) isStep notUp short, there, Bool.true_or,
          if_pos rfl]
  · cases made

end Disk

namespace AtomicWrite

open Disk

variable {faults : WriteFaults} {validate : Text → Except Failure Unit} {disk later : Disk}
  {spot : Spot}

/-! ## Directories above the target -/

theorem leadsToDirectory_of_makeOne {again : Bool} {name : Text} {above : List Text}
    (made : makeOne faults again disk spot name above = .ok later) :
    leadsToDirectory later spot (name :: above) = true := by
  unfold makeOne at made
  split at made
  · cases made
  · obtain ⟨place, found, directory⟩ := follow_of_makeDirectory made
    rw [leadsToDirectory, List.reverse_cons, found]
    exact directory

/-- When directories have been made without a failure, they are there. -/
theorem leadsToDirectory_of_ensureDirectory {names : List Text}
    (begins : disk.isDirectorySpot spot = true)
    (made : ensureDirectory faults disk spot names = (.ok (), later)) :
    leadsToDirectory later spot names = true := by
  cases names with
  | nil =>
      rw [ensureDirectory] at made
      split at made
      · cases made
      · obtain ⟨-, rfl⟩ := Prod.mk.inj made
        exact begins
  | cons name above =>
      rw [ensureDirectory] at made
      split at made
      · next one =>
        obtain ⟨-, rfl⟩ := Prod.mk.inj made
        exact leadsToDirectory_of_makeOne one
      · split at made
        · cases made
        · split at made
          · next one =>
            obtain ⟨-, rfl⟩ := Prod.mk.inj made
            exact leadsToDirectory_of_makeOne one
          · split at made
            · next there =>
              obtain ⟨-, rfl⟩ := Prod.mk.inj made
              exact (Bool.and_eq_true_iff.mp there).2
            · cases made
      · split at made
        · next there =>
          obtain ⟨-, rfl⟩ := Prod.mk.inj made
          exact there
        · cases made

/-! ## Steps -/

/-- The steps of a write that may fail. -/
inductive Step where
  | makeDirectories
  | create
  | fill
  | validate
  | replace

/-- The steps in the order in which they are taken. -/
def Step.inOrder : List Step := [.makeDirectories, .create, .fill, .validate, .replace]

/-- Why no temporary file for a path can be created in its directory. -/
def creationFailure (faults : WriteFaults) (path : Text) : Option SystemFailure :=
  faults.create.or <|
    if isLongName (temporaryName ((names path).getLast?.getD []) 0) then some .nameTooLong else none

/-- Why a file cannot take the place that a path has in its directory: the path is refused, it names
no entry, or a directory stands there. -/
def replacementFailure (faults : WriteFaults) (disk : Disk) (directory : Place) (path : Text) :
    Option Failure :=
  (refusal? (tidy path)).or <| .map .system <| faults.replace.or <|
    match (names path).getLast? with
    | none => some .busy
    | some last =>
      if last = ['.', '.'] then some .busy
      else if disk.isDirectory (directory ++ [last]) then some .isDirectory
      else none

theorem replace_eq_error_iff {temporary directory : Place} {path : Text} {bytes : Bytes}
    {failure : Failure} :
    replace faults disk temporary directory path bytes = .error failure ↔
      replacementFailure faults disk directory path = some failure := by
  unfold replace replacementFailure
  cases refusal? (tidy path) with
  | some refused => simp
  | none =>
      cases faults.replace with
      | some refused => simp
      | none =>
          cases (names path).getLast? with
          | none => simp
          | some last =>
              by_cases isUp : last = ['.', '.']
              · simp [isUp]
              · cases stands : disk.isDirectory (directory ++ [last]) <;> simp [isUp, stands]

/-- A write in a directory raises what the first of its steps raises that fails, not what becomes
of the temporary file. -/
theorem of?_writeIn (faults : WriteFaults) (validate : Text → Except Failure Unit) (disk : Disk)
    (directory : Place) (path text : Text) :
    Failure.of? (writeIn faults validate disk directory path text).1 =
      ((creationFailure faults path).map Failure.system).or
        ((faults.fill.map fun fault => Failure.system fault.2).or
          ((Failure.of? (validate text)).or
            (replacementFailure faults disk directory path))) := by
  unfold writeIn creationFailure
  cases faults.create with
  | some refused => rfl
  | none =>
      dsimp only
      split
      · rfl
      · cases faults.fill with
        | some fault => rfl
        | none =>
            cases validate text with
            | error failure => rfl
            | ok =>
                dsimp only
                cases failed : replacementFailure faults disk directory path with
                | some failure =>
                    have refused : ∀ temporary bytes,
                        replace faults (disk.withFile temporary bytes) temporary directory path
                          bytes = .error failure :=
                      fun _ _ => replace_eq_error_iff.mpr failed
                    rw [refused]
                    rfl
                | none =>
                    split
                    · next replaced =>
                      have refused := replace_eq_error_iff.mp replaced
                      exact absurd (failed.symm.trans refused) nofun
                    · rfl

/-- A file is written only where its own name fits, as that of the temporary file is longer. -/
theorem isLongName_of_writeIn {directory : Place} {path last text : Text}
    (written : writeIn faults validate disk directory path text = (.ok (), later))
    (final : (names path).getLast? = some last) : isLongName last = false := by
  have raised := of?_writeIn faults validate disk directory path text
  rw [written, Failure.of?_ok, eq_comm, Option.or_eq_none_iff, Option.map_eq_none_iff,
    creationFailure, Option.or_eq_none_iff, final] at raised
  have fits : ¬ isLongName (temporaryName last 0) = true := by simpa using raised.1.2
  rw [isLongName, length_encode_temporaryName, decide_eq_true_eq] at fits
  rw [isLongName, decide_eq_false_iff_not]
  omega

/-! ## Calls -/

/-- One call of a writer. -/
structure Attempt where
  faults : WriteFaults := {}
  validate : Text → Except Failure Unit := acceptAll
  path : Text
  text : Text

namespace Attempt

def perform (attempt : Attempt) (disk : Disk) : Except Failure Unit × Disk :=
  write attempt.faults attempt.validate disk attempt.path attempt.text

/-- The disk after one call after the other, whatever comes of them. -/
def performAll (attempts : List Attempt) (disk : Disk) : Disk :=
  attempts.foldl (fun disk attempt => (attempt.perform disk).2) disk

/-- The directories above the target, made or not. -/
def prepared (attempt : Attempt) (disk : Disk) : Except SystemFailure Unit × Disk :=
  ensureDirectory attempt.faults disk (disk.start attempt.path)
    (names attempt.path).dropLast.reverse

/-- Where the directory of the target is. -/
def folder (attempt : Attempt) (disk : Disk) : Except SystemFailure Spot :=
  (attempt.prepared disk).2.follow (disk.start attempt.path) (names attempt.path).dropLast

/-- The failure that a step of a call meets when all steps before it have succeeded. A path may be
refused whatever there is on the disk, and outside the tree nothing can be created. -/
def failureAt (attempt : Attempt) (disk : Disk) (step : Step) : Option Failure :=
  match step, attempt.folder disk with
  | .makeDirectories, _ =>
    (refusal? (parent attempt.path)).or (Failure.of? ((attempt.prepared disk).1.mapError .system))
  | .create, .ok (.inside _) =>
    (refusal? (temporaryPath disk attempt.path)).or
      ((creationFailure attempt.faults attempt.path).map .system)
  | .create, _ =>
    (refusal? (temporaryPath disk attempt.path)).or (some (.system .permissionDenied))
  | .fill, _ => attempt.faults.fill.map fun fault => .system fault.2
  | .validate, _ => Failure.of? (attempt.validate attempt.text)
  | .replace, .ok (.inside directory) =>
    replacementFailure attempt.faults (attempt.prepared disk).2 directory attempt.path
  | .replace, _ => none

variable {attempt : Attempt}

theorem folder_of_prepared (begins : disk.isDirectorySpot (disk.start attempt.path) = true)
    (made : attempt.prepared disk = (.ok (), later)) :
    ∃ spot, attempt.folder disk = .ok spot ∧ later.isDirectorySpot spot = true := by
  have leads := leadsToDirectory_of_ensureDirectory begins made
  rw [leadsToDirectory, List.reverse_reverse] at leads
  rw [folder, made]
  split at leads
  · next spot found => exact ⟨spot, found, leads⟩
  · cases leads

theorem prepared_extends (attempt : Attempt) (disk : Disk) :
    disk.IsExtendedBy (attempt.prepared disk).2 :=
  ensureDirectory_extends ..

theorem perform_of_refused {failure : Failure} (refused : refusal? (parent attempt.path) = some failure) :
    attempt.perform disk = (.error failure, disk) := by
  simp only [perform, write, refused]

theorem perform_of_prepared_error {failure : SystemFailure}
    (passes : refusal? (parent attempt.path) = none)
    (stopped : attempt.prepared disk = (.error failure, later)) :
    attempt.perform disk = (.error (.system failure), later) := by
  rw [prepared] at stopped
  simp only [perform, write, passes, stopped]

/-- A call goes on in the directory that has been made. -/
theorem perform_of_prepared_ok {spot : Spot} (passes : refusal? (parent attempt.path) = none)
    (made : attempt.prepared disk = (.ok (), later)) (found : attempt.folder disk = .ok spot) :
    attempt.perform disk =
      match refusal? (temporaryPath disk attempt.path), spot with
      | some failure, _ => (.error failure, later)
      | none, .outside => (.error (.system .permissionDenied), later)
      | none, .inside directory =>
        writeIn attempt.faults attempt.validate later directory attempt.path attempt.text := by
  have extended := attempt.prepared_extends disk
  rw [made] at extended
  rw [folder, made] at found
  rw [prepared] at made
  simp only [perform, write, passes, made, found, extended.temporaryPath_eq]
  cases refusal? (temporaryPath disk attempt.path) <;> cases spot <;> rfl

theorem of?_perform (begins : disk.isDirectorySpot (disk.start attempt.path) = true) :
    Failure.of? (attempt.perform disk).1 = Step.inOrder.findSome? (attempt.failureAt disk) := by
  cases passes : refusal? (parent attempt.path) with
  | some failure => simp [perform_of_refused passes, Step.inOrder, failureAt, passes]
  | none =>
      cases made : attempt.prepared disk with
      | mk outcome between =>
          cases outcome with
          | error failure =>
              have first : attempt.failureAt disk .makeDirectories = some (.system failure) := by
                rw [failureAt, passes, made]
                rfl
              rw [perform_of_prepared_error passes made, Step.inOrder, List.findSome?_cons, first]
              rfl
          | ok =>
              obtain ⟨spot, found, -⟩ := folder_of_prepared begins made
              rw [perform_of_prepared_ok passes made found]
              cases beside : refusal? (temporaryPath disk attempt.path) with
              | some failure =>
                  cases spot <;>
                    simp [Step.inOrder, failureAt, passes, made, found, beside, Except.mapError]
              | none =>
                  cases spot with
                  | outside =>
                      simp [Step.inOrder, failureAt, passes, made, found, beside, Except.mapError]
                  | inside directory =>
                      simp [Step.inOrder, Failure.findSome?_cons_eq_or, failureAt, passes, made,
                        found, beside, Except.mapError, of?_writeIn]

/-- A call that returns has written into the directory that it has made. -/
theorem exists_writeIn_of_perform_eq_ok
    (begins : disk.isDirectorySpot (disk.start attempt.path) = true)
    (returned : attempt.perform disk = (.ok (), later)) :
    ∃ between directory, disk.IsExtendedBy between ∧ between.isDirectory directory = true ∧
      between.follow (between.start attempt.path) (names attempt.path).dropLast =
        .ok (.inside directory) ∧
      writeIn attempt.faults attempt.validate between directory attempt.path attempt.text =
        (.ok (), later) := by
  cases passes : refusal? (parent attempt.path) with
  | some failure =>
      rw [perform_of_refused passes] at returned
      cases returned
  | none =>
      have extended := attempt.prepared_extends disk
      cases made : attempt.prepared disk with
      | mk outcome between =>
          rw [made] at extended
          cases outcome with
          | error failure =>
              rw [perform_of_prepared_error passes made] at returned
              cases returned
          | ok =>
              obtain ⟨spot, found, directory⟩ := folder_of_prepared begins made
              rw [perform_of_prepared_ok passes made found] at returned
              cases beside : refusal? (temporaryPath disk attempt.path) with
              | some failure =>
                  rw [beside] at returned
                  cases returned
              | none =>
                  rw [beside] at returned
                  cases spot with
                  | outside => cases returned
                  | inside place =>
                      rw [folder, made, ← extended.start_eq] at found
                      exact ⟨between, place, extended, directory, found, returned⟩

theorem isKeptBy_perform (attempt : Attempt) (disk : Disk) :
    disk.IsKeptBy (attempt.perform disk).2 := by
  obtain ⟨between, extended, outcome⟩ :=
    write_cases attempt.faults attempt.validate disk attempt.path attempt.text
  cases outcome with
  | inl failed =>
      obtain ⟨failure, failed⟩ := failed
      rw [perform, failed]
      exact extended.isKeptBy
  | inr written =>
      rw [perform, written]
      exact extended.isKeptBy.trans (.withFile between _ _)

/-- A call that raises changes no file. -/
theorem files_eq_of_perform_ne_ok (raised : (attempt.perform disk).1 ≠ .ok ()) :
    (attempt.perform disk).2.files = disk.files := by
  obtain ⟨between, extended, ⟨failure, failed⟩ | returned⟩ :=
    write_cases attempt.faults attempt.validate disk attempt.path attempt.text
  · rw [perform, failed]
    exact extended.files
  · exact absurd (congrArg Prod.fst returned) raised

/-- The path of a call that returns leads to the text, and no other file has changed. -/
theorem exists_target_of_perform_eq_ok
    (begins : disk.isDirectorySpot (disk.start attempt.path) = true)
    (returned : attempt.perform disk = (.ok (), later)) :
    ∃ target, later.find attempt.path = .ok (.inside target) ∧
      ∀ place, later.file? place =
        if place = target then some (Utf8.encode attempt.text) else disk.file? place := by
  obtain ⟨between, directory, extended, isDirectory, found, writes⟩ :=
    exists_writeIn_of_perform_eq_ok begins returned
  obtain ⟨failure, failed⟩ | ⟨last, final, notUp, written⟩ := writeIn_cases attempt.faults
    attempt.validate between directory attempt.path attempt.text
  · exact absurd (congrArg Prod.fst (failed.symm.trans writes)) nofun
  · have short := isLongName_of_writeIn writes final
    obtain ⟨-, rfl⟩ := Prod.mk.inj (written.symm.trans writes)
    refine ⟨directory ++ [last], find_withFile found isDirectory final notUp short _, ?_⟩
    intro other
    rw [file?, withFile, lookup_putFile, extended.files, file?]

/-! ## Calls in a row -/

/-- What has become of a disk by one call: which failure is raised, and what the files are after
it. -/
structure Settles (attempt : Attempt) (before : Disk) : Prop where
  raised : Failure.of? (attempt.perform before).1 =
    Step.inOrder.findSome? (attempt.failureAt before)
  untouched : (attempt.perform before).1 ≠ .ok () → (attempt.perform before).2.files = before.files
  written : (attempt.perform before).1 = .ok () →
    ∃ target, (attempt.perform before).2.find attempt.path = .ok (.inside target) ∧
      ∀ place, (attempt.perform before).2.file? place =
        if place = target then some (Utf8.encode attempt.text) else before.file? place
  noTemporary : ∀ place, (attempt.perform before).2.isFile place = true →
    before.isFile place = true ∨
      (attempt.perform before).2.find attempt.path = .ok (.inside place)

variable {before : Disk}

theorem settles (home : before.HasWorkingDirectory) (attempt : Attempt) :
    attempt.Settles before := by
  have begins := home.isDirectorySpot_start attempt.path
  have written (returned : (attempt.perform before).1 = .ok ()) :=
    exists_target_of_perform_eq_ok begins (Prod.ext returned rfl)
  refine ⟨of?_perform begins, files_eq_of_perform_ne_ok, written, fun place there => ?_⟩
  cases outcome : (attempt.perform before).1 with
  | error failure =>
      rw [isFile, file?, files_eq_of_perform_ne_ok (by simp [outcome])] at there
      exact .inl there
  | ok =>
      obtain ⟨target, found, files⟩ := written outcome
      by_cases same : place = target
      · exact .inr (same ▸ found)
      · rw [isFile, files, if_neg same] at there
        exact .inl there

/-- After writes in a row a place holds what it held before, or the whole text of one of them. -/
theorem file?_performAll (home : disk.HasWorkingDirectory) (attempts : List Attempt) (place : Place) :
    (performAll attempts disk).file? place = disk.file? place ∨
      ∃ attempt ∈ attempts,
        (performAll attempts disk).file? place = some (Utf8.encode attempt.text) := by
  induction attempts generalizing disk with
  | nil => exact .inl rfl
  | cons attempt rest ih =>
      have next := (isKeptBy_perform attempt disk).hasWorkingDirectory home
      cases ih next with
      | inr later =>
          obtain ⟨other, member, held⟩ := later
          exact .inr ⟨other, List.mem_cons_of_mem _ member, held⟩
      | inl kept =>
          change (performAll rest (attempt.perform disk).2).file? place = _ ∨ ∃ other ∈ _,
            (performAll rest (attempt.perform disk).2).file? place = _
          have settled := settles home attempt
          rw [kept]
          cases outcome : (attempt.perform disk).1 with
          | error failure =>
              left
              rw [file?, settled.untouched (by simp [outcome]), file?]
          | ok =>
              obtain ⟨target, -, files⟩ := settled.written outcome
              rw [files]
              split
              · exact .inr ⟨attempt, List.mem_cons_self, rfl⟩
              · exact .inl rfl

end Attempt

end AtomicWrite

end Companion
