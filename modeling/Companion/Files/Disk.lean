import Companion.Files.Store
import Companion.Path
import Companion.Text.Lines
import Companion.Text.Utf8

/-!
# Disks

A tree of directories and files of bytes. A place of the tree is the list of the names that lead to
it from the top. The top is the root, and then the tree is all there is and the working directory is
one of its places; or the top is the working directory itself, and then what lies outside the tree is
known only to exist: a directory of which nothing is seen.

Paths are followed name by name. A step is possible only from a directory, a step up leads to the
directory above, and a final slash asks for a directory. A path with a null character or of too many
bytes is refused before anything is looked at.
-/

set_option autoImplicit false

namespace Companion

/-- A place of a tree, from the top down. -/
abbrev Place := List Text

/-- Directories and files by place. The top of the tree is not listed. -/
structure Disk where
  directories : List Place := []
  files : List (Place × Bytes) := []
  /-- The place of the working directory in a tree whose top is the root. Without a place the working
  directory is the top. -/
  working : Option Place := none
  /-- The names from the root to the top, where that is the working directory. -/
  outer : Place := []
deriving DecidableEq, Repr

namespace Disk

/-- Where a path leads: to a place of the tree or out of it. -/
inductive Spot where
  | inside (place : Place)
  | outside
deriving DecidableEq, Repr

def isDirectory (disk : Disk) (place : Place) : Bool :=
  place.isEmpty || disk.directories.contains place

def file? (disk : Disk) (place : Place) : Option Bytes := disk.files.lookup place

def isFile (disk : Disk) (place : Place) : Bool := (disk.file? place).isSome

def isLongName (name : Text) : Bool := 255 < (Utf8.encode name).length

def isLongPath (path : Text) : Bool := 4095 < (Utf8.encode path).length

/-- Why a path is refused whatever there is on the disk. -/
def refusal? (path : Text) : Option Failure :=
  if path.contains '\x00' then some .nullCharacter
  else if isLongPath path then some (.system .nameTooLong)
  else none

/-- Whether the top of the tree is the root. -/
def isRooted (disk : Disk) : Bool := disk.working.isSome

def step (disk : Disk) (spot : Spot) (name : Text) : Except SystemFailure Spot :=
  match spot with
  | .outside =>
    if name.isEmpty || name = ['.'] || name = ['.', '.'] then .ok .outside
    else .error .missing
  | .inside place =>
    if !disk.isDirectory place then .error .notDirectory
    else if name.isEmpty || name = ['.'] then .ok spot
    else if name = ['.', '.'] then
      .ok (if place.isEmpty && !disk.isRooted then .outside else .inside place.dropLast)
    else if isLongName name then .error .nameTooLong
    else
      let next := place ++ [name]
      if disk.isDirectory next || disk.isFile next then .ok (.inside next) else .error .missing

def follow (disk : Disk) : Spot → List Text → Except SystemFailure Spot
  | spot, [] => .ok spot
  | spot, name :: rest =>
    match disk.step spot name with
    | .ok next => follow disk next rest
    | .error failure => .error failure

def start (disk : Disk) (path : Text) : Spot :=
  match disk.working with
  | some place => .inside (if Path.isAbsolute path then [] else place)
  | none => if Path.isAbsolute path then .outside else .inside []

/-- Where a path leads, every slash taken seriously; the empty path leads nowhere. -/
def locate (disk : Disk) (path : Text) : Except SystemFailure Spot :=
  if path.isEmpty then .error .missing
  else disk.follow (disk.start path) (Text.splitOn '/' path)

/-- The names of a path without empty ones and single dots. -/
def names (path : Text) : List Text :=
  (Text.splitOn '/' path).filter fun name => !name.isEmpty && name ≠ ['.']

/-- The path that opens with some slashes and goes on with names; without both it stays. -/
def spell (slashes : Text) (names : List Text) : Text :=
  let path := slashes ++ Text.join ['/'] names
  if path.isEmpty then ['.'] else path

/-- A path without empty names and single dots, steps up being kept. -/
def tidy (path : Text) : Text := spell (Path.rootSlashes path) (names path)

/-- The path of the directory of a path, without empty names and single dots. -/
def parent (path : Text) : Text := spell (Path.rootSlashes path) (names path).dropLast

def workingPath (disk : Disk) : Text := '/' :: Text.join ['/'] (disk.working.getD disk.outer)

/-- Where a path leads if empty names, also at its end, do not count. -/
def find (disk : Disk) (path : Text) : Except SystemFailure Spot :=
  disk.follow (disk.start path) (names path)

def isDirectorySpot (disk : Disk) : Spot → Bool
  | .inside place => disk.isDirectory place
  | .outside => true

/-! ## Reading -/

def readBytes (disk : Disk) (path : Text) : Except SystemFailure Bytes :=
  match disk.find path with
  | .error failure => .error failure
  | .ok .outside => .error .isDirectory
  | .ok (.inside place) =>
    match disk.file? place with
    | some bytes => .ok bytes
    | none => .error .isDirectory

/-- Bytes as a text whose lines end in line feeds. -/
def decode (bytes : Bytes) : Except Failure Text :=
  match Utf8.decode bytes with
  | some text => .ok text.universalNewlines
  | none => .error .invalidUtf8

def read (disk : Disk) (path : Text) : Except Failure Text :=
  match refusal? (tidy path) with
  | some failure => .error failure
  | none =>
    match disk.readBytes path with
    | .ok bytes => decode bytes
    | .error .missing => .error (.fileNotFound path)
    | .error .isDirectory => .error (.fileNotFound path)
    | .error failure => .error (.system failure)

def entryNames (disk : Disk) (place : Place) : List Text :=
  Text.sortedDistinct ((disk.directories ++ disk.files.map (·.1)).filterMap fun other =>
    if other ≠ [] ∧ other.dropLast = place then other.getLast? else none)

/-- The entries of a directory; the empty path lists the working directory. -/
def list (disk : Disk) (path : Text) : Except Failure (List Text) :=
  match refusal? path with
  | some failure => .error failure
  | none =>
    match disk.locate (if path.isEmpty then ['.'] else path) with
    | .ok .outside => .ok []
    | .ok (.inside place) =>
      if disk.isDirectory place then .ok ((disk.entryNames place).map (Path.join path))
      else .error (.fileNotFound path)
    | .error .missing => .error (.fileNotFound path)
    | .error .notDirectory => .error (.fileNotFound path)
    | .error failure => .error (.system failure)

def stat (disk : Disk) (path : Text) : Except Failure PathStatus :=
  match refusal? path with
  | some failure => .error failure
  | none =>
    match disk.locate path with
    | .ok .outside => .ok { isDirectory := true }
    | .ok (.inside place) =>
      .ok { isDirectory := disk.isDirectory place, isFile := disk.isFile place }
    | .error .missing => .error (.fileNotFound path)
    | .error failure => .error (.system failure)

/-! ## Changing -/

/-- Sets the bytes of a place, in the position of the file if there is one. -/
def putFile (place : Place) (bytes : Bytes) : List (Place × Bytes) → List (Place × Bytes)
  | [] => [(place, bytes)]
  | (other, old) :: rest =>
    if other = place then (place, bytes) :: rest else (other, old) :: putFile place bytes rest

def withFile (disk : Disk) (place : Place) (bytes : Bytes) : Disk :=
  { disk with files := putFile place bytes disk.files }

def withoutFile (disk : Disk) (place : Place) : Disk :=
  { disk with files := disk.files.filter (·.1 ≠ place) }

def withDirectory (disk : Disk) (place : Place) : Disk :=
  if disk.isDirectory place then disk
  else { disk with directories := disk.directories ++ [place] }

/-- The places above a place, the highest one first. -/
def ancestors (place : Place) : List Place :=
  (List.range place.length).map (place.take ·)

/-- The disk with a directory at a place and at all places above it. -/
def withDirectories (disk : Disk) (place : Place) : Disk :=
  (ancestors place ++ [place]).foldl withDirectory disk

/-- A disk with given directories and files and the directories above them. -/
def ofEntries (directories : List Text) (files : List (Text × Bytes)) : Disk :=
  let disk := directories.foldl (fun disk path => disk.withDirectories (Path.components path)) {}
  files.foldl (fun disk (path, bytes) =>
    let place := Path.components path
    (disk.withDirectories place.dropLast).withFile place bytes) disk

/-- Makes the directory that the last of some names leads to. -/
def makeDirectory (disk : Disk) (spot : Spot) (above : List Text) (name : Text) :
    Except SystemFailure Disk :=
  match disk.follow spot above with
  | .error failure => .error failure
  | .ok parent =>
    match disk.step parent name with
    | .ok _ => .error .fileExists
    | .error .missing =>
      match parent with
      | .inside place => .ok (disk.withDirectory (place ++ [name]))
      | .outside => .error .permissionDenied
    | .error failure => .error failure

/-- The path of a place from the top. -/
def pathOf (place : Place) : Text := Text.join ['/'] place

/-- The place that a name leads to, there being a directory: a step up from the top stays there. -/
def enterName (place : Place) (name : Text) : Place :=
  if name.isEmpty || name = ['.'] then place
  else if name = ['.', '.'] then place.dropLast
  else place ++ [name]

/-- The place that a path names, if all directories on the way exist and lie in the tree. -/
def placeOf (disk : Disk) (path : Text) : Place :=
  (Text.splitOn '/' path).foldl enterName
    (if Path.isAbsolute path then [] else disk.working.getD [])

def tree (disk : Disk) : List (Text × Bytes) :=
  (Text.sortedDistinct (disk.files.map fun file => pathOf file.1)).filterMap fun path =>
    (disk.files.find? fun file => pathOf file.1 = path).map fun file => (path, file.2)

def depth (disk : Disk) : Nat := disk.directories.length

end Disk

end Companion
