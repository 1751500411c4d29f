import Companion.Text.Basic

/-!
# Artifacts

Generated code in two parts: the import lines a file needs and its statements. Merging keeps the
statements of both artifacts in order and each import line once, where it was first seen.
-/

set_option autoImplicit false

namespace Companion

structure Artifact where
  imports : List Text := []
  statements : List Text := []
deriving DecidableEq, Repr

namespace Artifact

def empty : Artifact := {}

def merge (first second : Artifact) : Artifact where
  imports := Text.distinct (first.imports ++ second.imports)
  statements := first.statements ++ second.statements

def concat (artifacts : List Artifact) : Artifact := artifacts.foldl merge empty

def isEmpty (artifact : Artifact) : Bool := artifact.imports.isEmpty && artifact.statements.isEmpty

/-- The text of a file that holds the artifact: a header line if there is a header, each import line
once, an empty line, and the statements, each part on lines of its own. -/
def render (header : Option Text) (artifact : Artifact) : Text :=
  let top := match header with
    | some line => if line.isEmpty then [] else [line]
    | none => []
  Text.join ['\n'] (top ++ Text.distinct artifact.imports ++ [[]] ++ artifact.statements) ++ ['\n']

end Artifact

end Companion
