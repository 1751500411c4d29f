import Companion.Files.Disk

/-!
# Atomic writes

A file is written in two phases: its new text goes into a temporary file of the same directory,
which then takes the place of the file. Whatever fails, the file holds its old text or its new one,
and the temporary file is gone.

Every step may be refused by the system. `WriteFaults` says which ones are, beyond those that the
state of the disk itself makes fail.
-/

set_option autoImplicit false

namespace Companion

/-- The steps of a write that the system refuses. -/
structure WriteFaults where
  /-- Making the directory that some names lead to, at the first attempt or, when the directories
  above it have been made, again. -/
  directory : List Text → Bool → Option SystemFailure := fun _ _ => none
  /-- Creating the temporary file. -/
  create : Option SystemFailure := none
  /-- Filling the temporary file, after a number of bytes. -/
  fill : Option (Nat × SystemFailure) := none
  /-- Putting the temporary file in place. -/
  replace : Option SystemFailure := none

namespace AtomicWrite

open Disk

/-- Makes a directory unless that is refused; its names are given last one first. -/
def makeOne (faults : WriteFaults) (again : Bool) (disk : Disk) (spot : Spot) (name : Text)
    (above : List Text) : Except SystemFailure Disk :=
  match faults.directory (name :: above).reverse again with
  | some failure => .error failure
  | none => disk.makeDirectory spot above.reverse name

/-- Whether names, given last one first, lead to a directory. -/
def leadsToDirectory (disk : Disk) (spot : Spot) (names : List Text) : Bool :=
  match disk.follow spot names.reverse with
  | .ok place => disk.isDirectorySpot place
  | .error _ => false

/-- Makes a directory and those above it that are missing; its names are given last one first. An
existing directory is no failure; that of no names exists, and has none above it. -/
def ensureDirectory (faults : WriteFaults) (disk : Disk) (spot : Spot) :
    List Text → Except SystemFailure Unit × Disk
  | [] =>
    match faults.directory [] false with
    | some .missing => (.error .missing, disk)
    | _ => (.ok (), disk)
  | name :: above =>
    match makeOne faults false disk spot name above with
    | .ok disk => (.ok (), disk)
    | .error .missing =>
      match ensureDirectory faults disk spot above with
      | (.error failure, disk) => (.error failure, disk)
      | (.ok (), disk) =>
        match makeOne faults true disk spot name above with
        | .ok disk => (.ok (), disk)
        | .error failure =>
          if failure ≠ .missing && leadsToDirectory disk spot (name :: above) then (.ok (), disk)
          else (.error failure, disk)
    | .error failure =>
      if leadsToDirectory disk spot (name :: above) then (.ok (), disk)
      else (.error failure, disk)

/-- The name of a temporary file for a file name, numbered with eight digits. -/
def temporaryName (name : Text) (number : Nat) : Text :=
  let digits := Text.ofNat number
  "." ++ name ++ "." ++ List.replicate (8 - digits.length) '0' ++ digits ++ ".tmp"

/-- A place of a directory at which there is nothing yet. -/
def freshPlace (disk : Disk) (directory : Place) (name : Text) : Place :=
  let candidates := (List.range (disk.files.length + disk.directories.length + 1)).map fun number =>
    directory ++ [temporaryName name number]
  (candidates.find? fun place => !disk.isDirectory place && !disk.isFile place).getD directory

/-- The absolute path of the temporary file for a path, which lies in the same directory. -/
def temporaryPath (disk : Disk) (path : Text) : Text :=
  Path.join (Path.absolute disk.workingPath (Disk.parent path))
    (temporaryName (((Disk.names path).getLast?).getD []) 0)

/-- Puts the file at `temporary` in the place of the last name of a path in a directory. -/
def replace (faults : WriteFaults) (disk : Disk) (temporary directory : Place) (path : Text)
    (bytes : Bytes) : Except Failure Disk :=
  match Disk.refusal? (Disk.tidy path), faults.replace, (Disk.names path).getLast? with
  | some failure, _, _ => .error failure
  | none, some failure, _ => .error (.system failure)
  | none, none, none => .error (.system .busy)
  | none, none, some name =>
    if name = ['.', '.'] then .error (.system .busy)
    else if disk.isDirectory (directory ++ [name]) then .error (.system .isDirectory)
    else .ok ((disk.withoutFile temporary).withFile (directory ++ [name]) bytes)

/-- Writes a text to a path by way of a temporary file in its directory. -/
def writeIn (faults : WriteFaults) (validate : Text → Except Failure Unit) (disk : Disk)
    (directory : Place) (path text : Text) : Except Failure Unit × Disk :=
  let name := ((Disk.names path).getLast?).getD []
  let temporary := freshPlace disk directory name
  let bytes := Utf8.encode text
  match faults.create with
  | some failure => (.error (.system failure), disk)
  | none =>
    if Disk.isLongName (temporaryName name 0) then (.error (.system .nameTooLong), disk)
    else
      match faults.fill with
      | some (length, failure) =>
        let partly := disk.withFile temporary (bytes.take length)
        (.error (.system failure), partly.withoutFile temporary)
      | none =>
        let filled := disk.withFile temporary bytes
        match validate text with
        | .error failure => (.error failure, filled.withoutFile temporary)
        | .ok () =>
          match replace faults filled temporary directory path bytes with
          | .error failure => (.error failure, filled.withoutFile temporary)
          | .ok disk => (.ok (), disk)

/-- Writes a text to a path if it passes validation, making the directories above it as needed. -/
def write (faults : WriteFaults) (validate : Text → Except Failure Unit) (disk : Disk)
    (path text : Text) : Except Failure Unit × Disk :=
  let above := (Disk.names path).dropLast
  let spot := disk.start path
  match Disk.refusal? (Disk.parent path) with
  | some failure => (.error failure, disk)
  | none =>
    match ensureDirectory faults disk spot above.reverse with
    | (.error failure, disk) => (.error (.system failure), disk)
    | (.ok (), disk) =>
      match Disk.refusal? (temporaryPath disk path), disk.follow spot above with
      | some failure, _ => (.error failure, disk)
      | none, .error failure => (.error (.system failure), disk)
      | none, .ok .outside => (.error (.system .permissionDenied), disk)
      | none, .ok (.inside directory) => writeIn faults validate disk directory path text

end AtomicWrite

def acceptAll (_ : Text) : Except Failure Unit := .ok ()

def refusePart (part text : Text) : Except Failure Unit :=
  if Text.hasPart part text then .error .rejected else .ok ()

instance : FileStore Disk where
  read := Disk.read
  list := Disk.list
  stat := Disk.stat
  write := AtomicWrite.write {} acceptAll
  depth := Disk.depth

/-- A disk whose writes the system may refuse in part: the faults of the writes to come, in order.
The writes after those meet none. -/
structure FaultyDisk where
  disk : Disk
  faults : List WriteFaults := []

instance : FileStore FaultyDisk where
  read store := store.disk.read
  list store := store.disk.list
  stat store := store.disk.stat
  write store path text :=
    let (result, disk) := AtomicWrite.write (store.faults.headD {}) acceptAll store.disk path text
    (result, ⟨disk, store.faults.tail⟩)
  depth store := store.disk.depth

end Companion
