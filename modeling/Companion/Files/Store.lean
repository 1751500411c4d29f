import Companion.Failure

/-!
# File stores

What a run needs of a place that keeps files: reading and writing texts, listing directories,
telling files from directories. Only writing changes a store, and even a write that fails may have
changed it.
-/

set_option autoImplicit false

namespace Companion

structure PathStatus where
  isDirectory : Bool := false
  isFile : Bool := false
deriving DecidableEq, Repr

/-- Places that keep files. -/
class FileStore (σ : Type) where
  /-- The text of a file. -/
  read : σ → Text → Except Failure Text
  /-- The entries of a directory, each joined to the path it was listed by, ordered by name. -/
  list : σ → Text → Except Failure (List Text)
  /-- What a path is. -/
  stat : σ → Text → Except Failure PathStatus
  /-- Writes a file, making directories as needed; the store after it comes with the outcome. -/
  write : σ → Text → Text → Except Failure Unit × σ
  /-- A number that nested directories are not deeper than. -/
  depth : σ → Nat

namespace FileStore

variable {σ : Type} [FileStore σ]

/-- The accepted files below a directory, depth first; `fuel` bounds the depth. -/
def walkWithin (store : σ) (accepts : Text → Bool) : Nat → Text → Except Failure (List Text)
  | 0, _ => .error .endlessWalk
  | fuel + 1, directory => do
    let entries ← list store directory
    let found ← entries.mapM fun path => do
      let stat ← stat store path
      if stat.isDirectory then walkWithin store accepts fuel path
      else if stat.isFile && accepts path then pure [path]
      else pure []
    return found.flatten

/-- The accepted files below a directory, depth first, the entries of a directory by name. -/
def walk (store : σ) (accepts : Text → Bool) (directory : Text) : Except Failure (List Text) :=
  walkWithin store accepts (depth store + 2) directory

/-- Writes files in order until one cannot be written; the paths tried and the store after it come
with the outcome. -/
def writeAll (store : σ) : List (Text × Text) → Except Failure Unit × List Text × σ
  | [] => (.ok (), [], store)
  | (path, text) :: rest =>
    match write store path text with
    | (.ok (), store) =>
      let (result, tried, store) := writeAll store rest
      (result, path :: tried, store)
    | (.error failure, store) => (.error failure, [path], store)

end FileStore

end Companion
