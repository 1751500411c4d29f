import Companion.Failure
import Companion.Path
import Companion.Value.Basic

/-!
# Relocations

Where companions go: replacements in the last component of a path, in order, and perhaps a
subdirectory that the result is moved into. Specifiers are relocated in the same way.

A relocation that comes from a configuration file may hold anything; it fails when it is applied.
-/

set_option autoImplicit false

namespace Companion

/-- Replacements in the last component and the subdirectory to move to. -/
structure Relocation where
  replace : List (Text × Text) := [(".ppx", [])]
  subdirectory : Option Text := none
deriving DecidableEq, Repr

namespace Relocation

/-- The last component of a path with all replacements made. -/
def renameBase (relocation : Relocation) (base : Text) : Text :=
  relocation.replace.foldl (fun text pair => Text.replaceAll pair.1 pair.2 text) base

/-- The directory moved into the subdirectory, unless that is empty. -/
def moveDirectory (relocation : Relocation) (directory : Text) : Text :=
  match relocation.subdirectory with
  | some (c :: name) => Path.join directory (c :: name)
  | _ => directory

def apply (relocation : Relocation) (path : Text) : Text :=
  let directory := relocation.moveDirectory (Path.directory path)
  let base := relocation.renameBase (Path.base path)
  if directory.isEmpty then base else Path.join directory base

end Relocation

/-- A relocation as it was configured. -/
structure RelocationSettings where
  replace : List (Value × Value) := [(.string ".ppx", .string [])]
  subdirectory : Value := .null
deriving Repr

namespace RelocationSettings

/-- The pair that a value with two parts stands for. -/
def pairOf (value : Value) : Except Failure (Value × Value) :=
  match value.parts? with
  | none => .error .badShape
  | some [old, new] => .ok (old, new)
  | some [] => .error (.pairTooShort 0)
  | some [_] => .error (.pairTooShort 1)
  | some _ => .error .pairTooLong

def pairsOf (value : Value) : Except Failure (List (Value × Value)) :=
  match value.parts? with
  | none => .error .badShape
  | some parts => parts.mapM pairOf

/-- Reads a relocation off the members of an object; what is missing is as usual. -/
def ofMembers (members : List (Text × Value)) : Except Failure RelocationSettings := do
  let usual : RelocationSettings := {}
  let replace ← match Value.member? members "replace" with
    | some value => pairsOf value
    | none => pure usual.replace
  return ⟨replace, (Value.member? members "subdirectory").getD usual.subdirectory⟩

def ofValue : Value → Except Failure RelocationSettings
  | .object members => ofMembers members
  | _ => .error .badShape

def toValue (settings : RelocationSettings) : Value :=
  .object [("replace", .array (settings.replace.map fun pair => .array [pair.1, pair.2])),
    ("subdirectory", settings.subdirectory)]

/-- A pair of texts, if the values are texts. -/
def textPair? (pair : Value × Value) : Option (Text × Text) :=
  match pair with
  | (.string old, .string new) => some (old, new)
  | _ => none

/-- The relocation that is meant, if the values have the right shapes. A subdirectory that counts as
no is none. -/
def relocation? (settings : RelocationSettings) : Option Relocation := do
  let replace ← settings.replace.mapM textPair?
  if settings.subdirectory.isTruthy then
    let subdirectory ← settings.subdirectory.text?
    return ⟨replace, some subdirectory⟩
  else return ⟨replace, none⟩

def apply (settings : RelocationSettings) (path : Text) : Except Failure Text :=
  match settings.relocation? with
  | some relocation => .ok (relocation.apply path)
  | none => .error .badShape

def same (left right : RelocationSettings) : Bool := left.toValue == right.toValue

end RelocationSettings

end Companion
