import Companion.Output.Artifact

/-!
# Files to write

The files a run is going to write, each with the artifact accumulated for it, in the order in which
they were first added to. Paths are compared as they are spelled.
-/

set_option autoImplicit false

namespace Companion

/-- Artifacts by path, in the order of their first addition. -/
structure FileSet where
  entries : List (Text × Artifact) := []
deriving DecidableEq, Repr

namespace FileSet

/-- Puts a fragment into the entry of a path, which is added at the end if there is none. -/
def addTo (path : Text) (fragment : Artifact) :
    List (Text × Artifact) → List (Text × Artifact)
  | [] => [(path, Artifact.empty.merge fragment)]
  | (other, artifact) :: rest =>
    if other = path then (other, artifact.merge fragment) :: rest
    else (other, artifact) :: addTo path fragment rest

def add (files : FileSet) (path : Text) (fragment : Artifact) : FileSet :=
  ⟨addTo path fragment files.entries⟩

def get? (files : FileSet) (path : Text) : Option Artifact := files.entries.lookup path

def contains (files : FileSet) (path : Text) : Bool := (files.get? path).isSome

def size (files : FileSet) : Nat := files.entries.length

def paths (files : FileSet) : List Text := files.entries.map (·.1)

end FileSet

end Companion
