import Companion.CommandLine.Application
import Companion.Program.StandIn

/-!
# The program

The command on the directory it is started in: what lies below is loaded, the command works on that,
its report is shown, and the files it changed are stored. No program is started: scripts and small
tools that serve as formatters are interpreted, and any other one counts as not installed.
-/

set_option autoImplicit false

namespace Companion.Application

/-- Loads what an entry of the directory at a place stands for. -/
partial def load (above : Place) (disk : Disk) (entry : IO.FS.DirEntry) : IO Disk := do
  let place := above ++ [entry.fileName.toList]
  if ← entry.path.isDir then
    (← entry.path.readDir).foldlM (load place) (disk.withDirectory place)
  else
    let bytes ← IO.FS.readBinFile entry.path
    return disk.withFile place bytes.toList

def store (before after : Disk) : IO Unit := do
  let directory ← IO.currentDir
  for (place, bytes) in after.files do
    if before.file? place ≠ some bytes then
      let path := directory / String.ofList (Disk.pathOf place)
      if let some parent := path.parent then IO.FS.createDirAll parent
      IO.FS.writeBinFile path ⟨bytes.toArray⟩

def main (arguments : List String) : IO UInt32 := do
  let directory ← IO.currentDir
  let top : Disk := { outer := Path.components directory.toString.toList }
  let disk ← (← directory.readDir).foldlM (load []) top
  let report := run StandIn.respond disk (arguments.map String.toList)
  IO.eprint (String.ofList report.errors)
  if let some failure := report.unhandled then
    IO.eprintln ("Unexpected failure: " ++ String.ofList failure.message)
  store disk report.disk
  IO.print (String.ofList report.output)
  return UInt32.ofNat report.status

end Companion.Application

def main (arguments : List String) : IO UInt32 := Companion.Application.main arguments
