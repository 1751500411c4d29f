import Companion.Files.Store
import Companion.Path

/-!
# Files in memory

Files kept under the normal forms of their paths, so that all spellings of a path name one file.
There are no directories of their own: a path is a directory while a file lies below it, and the
working directory always is one.
-/

set_option autoImplicit false

namespace Companion

/-- Texts by normal path, in the order in which the paths were first written. -/
structure MemoryFiles where
  entries : List (Text × Text) := []
deriving DecidableEq, Repr

namespace MemoryFiles

/-- Sets the text of a key, in place if the key is there. -/
def put (key text : Text) : List (Text × Text) → List (Text × Text)
  | [] => [(key, text)]
  | (other, old) :: rest =>
    if other = key then (key, text) :: rest else (other, old) :: put key text rest

def get? (files : MemoryFiles) (key : Text) : Option Text := files.entries.lookup key

def keys (files : MemoryFiles) : List Text := files.entries.map (·.1)

def contains (files : MemoryFiles) (path : Text) : Bool :=
  (files.get? (Path.normalize path)).isSome

def paths (files : MemoryFiles) : List Text := Text.sortedDistinct files.keys

/-- A directory with exactly one slash at its end: what the keys below it start with. -/
def directoryMark (directory : Text) : Text := Path.dropFinalSlashes directory ++ ['/']

/-- The way from a normal directory to a normal path below it. Below the working directory lies what
neither starts at the root nor with a step up. -/
def below? (directory key : Text) : Option Text :=
  if directory = ['.'] then
    if key.startsWith "/" || key.startsWith "../" then none else some key
  else
    let mark := directoryMark directory
    if key.startsWith mark then some (key.drop mark.length) else none

/-- The way from a directory to a key, if there is one and it is not empty. -/
def properlyBelow? (directory key : Text) : Option Text :=
  match below? directory key with
  | some (c :: way) => some (c :: way)
  | _ => none

/-- The names of the entries of a normal directory. -/
def names (files : MemoryFiles) (directory : Text) : List Text :=
  Text.sortedDistinct ((files.keys.filterMap (properlyBelow? directory)).map
    (·.takeWhile (· ≠ '/')))

def write (files : MemoryFiles) (path text : Text) : MemoryFiles :=
  ⟨put (Path.normalize path) text files.entries⟩

/-- Files with given paths and texts, written in order. -/
def ofList (files : List (Text × Text)) : MemoryFiles :=
  files.foldl (fun store file => store.write file.1 file.2) {}

def read (files : MemoryFiles) (path : Text) : Except Failure Text :=
  match files.get? (Path.normalize path) with
  | some text => .ok text
  | none => .error (.fileNotFound path)

def list (files : MemoryFiles) (path : Text) : Except Failure (List Text) :=
  let directory := Path.normalize path
  let names := files.names directory
  if (files.get? directory).isSome || (names.isEmpty && directory ≠ ['.']) then
    .error (.fileNotFound path)
  else .ok (names.map (Path.join path))

def stat (files : MemoryFiles) (path : Text) : Except Failure PathStatus :=
  let key := Path.normalize path
  if (files.get? key).isSome then .ok { isFile := true }
  else if key = ['.'] || files.keys.any fun other => (properlyBelow? key other).isSome then
    .ok { isDirectory := true }
  else .error (.fileNotFound path)

def depth (files : MemoryFiles) : Nat := files.keys.foldl (fun most key => max most key.length) 0

instance : FileStore MemoryFiles where
  read := read
  list := list
  stat := stat
  write files path text := (.ok (), files.write path text)
  depth := depth

end MemoryFiles

end Companion
