import Companion.CommandLine.Parameter
import Companion.CommandLine.Similarity
import Companion.Files.Disk

/-!
# Reading arguments

The arguments of a call are read from left to right. Options may stand anywhere before `--`; a long
flag may carry its value behind an equals sign, and short flags may be written together, the last
one with its value. What is left is the positional argument.

Then values are checked in the order in which the parameters were first given.
-/

set_option autoImplicit false

namespace Companion

inductive Given where
  | text (parameter : Parameter) (value : Text)
  | switch (parameter : Parameter) (on : Bool)
  | help
deriving DecidableEq, Repr

def Given.parameter? : Given → Option Parameter
  | text parameter _ => some parameter
  | switch parameter _ => some parameter
  | help => none

structure Parameters where
  config : Option Text := none
  pattern : Option Text := none
  generators : List Text := []
  tag : Option Text := none
  prettier : Option Bool := none
  addGenerationComment : Bool := false
  verbose : Bool := false
  sourceRoot : Option Text := none
deriving DecidableEq, Repr

namespace Arguments

/-- What an argument gives by itself, and the option that takes the next argument as its value, with
the flag it was given by. -/
abbrev Piece := List Given × Option (Parameter × Text)

/-- Reads a long flag, perhaps with a value. -/
def readLong (flag : Text) (value : Option Text) : Except UsageError Piece :=
  if !Flag.longFlags.contains flag then
    .error (.unknownOption flag (Similarity.similar flag Flag.longFlags))
  else
    match Flag.ofText? flag, value with
    | some (.valued parameter), some value => .ok ([.text parameter value], none)
    | some (.valued parameter), none => .ok ([], some (parameter, flag))
    | some (.switch _ _), some _ => .error (.unexpectedValue flag)
    | some (.switch parameter on), none => .ok ([.switch parameter on], none)
    | some .help, some _ => .error (.unexpectedValue flag)
    | some .help, none => .ok ([.help], none)
    | none, _ => .error (.unknownOption flag [])

def readShort : Text → Except UsageError Piece
  | [] => .ok ([], none)
  | c :: rest =>
    match Flag.ofText? ['-', c] with
    | some (.valued parameter) =>
      if rest.isEmpty then .ok ([], some (parameter, ['-', c]))
      else .ok ([.text parameter rest], none)
    | some (.switch parameter on) => do
      let (given, next) ← readShort rest
      return (.switch parameter on :: given, next)
    | some .help => do
      let (given, next) ← readShort rest
      return (.help :: given, next)
    | none => .error (.unknownOption ['-', c] [])

def readFlags (argument : Text) : Except UsageError Piece :=
  let flag := argument.takeWhile (· ≠ '=')
  let value := if argument.contains '=' then some (argument.drop (flag.length + 1)) else none
  if Flag.isLong argument then readLong flag value else readShort (argument.drop 1)

/-- Reads all arguments: what was given by options, and the positional arguments. -/
def read : List Text → Except UsageError (List Given × List Text)
  | [] => .ok ([], [])
  | argument :: rest =>
    if argument = "--".toList then .ok ([], rest)
    else if argument.head? = some '-' && 1 < argument.length then
      match readFlags argument with
      | .error error => .error error
      | .ok (given, none) => do
        let (more, positional) ← read rest
        return (given ++ more, positional)
      | .ok (given, some (parameter, flag)) =>
        match rest with
        | [] => .error (.missingValue flag)
        | value :: rest => do
          let (more, positional) ← read rest
          return (given ++ .text parameter value :: more, positional)
    else do
      let (given, positional) ← read rest
      return (given, argument :: positional)

/-! ## Values -/

/-- The path of a configuration file, which must exist. Its directory is not looked at for steps up.
-/
def configPath (disk : Disk) (value : Text) : Except UsageError Text :=
  let missing := .error (.badValue .config ("File " ++ value.quoted ++ " does not exist."))
  let directory := .error (.badValue .config ("File " ++ value.quoted ++ " is a directory."))
  let absolute := Disk.spell ['/'] (Path.components (Path.absolute disk.workingPath value))
  if (Disk.refusal? absolute).isSome then missing
  else if disk.isRooted then
    let place := disk.placeOf value
    if disk.isDirectory place then directory
    else if disk.isFile place then .ok ('/' :: Disk.pathOf place)
    else missing
  else
    let place := Path.components value
    if Path.isAbsolute value then if place.isEmpty then directory else missing
    else if place.all (· = ['.', '.']) then directory
    else if disk.isDirectory place then directory
    else if disk.isFile place then .ok (Disk.pathOf place)
    else missing

def generatorName (value : Text) : Except UsageError Text :=
  if (Library.ofName? value).isSome then .ok value
  else
    .error (.badValue .generators (value.quoted ++ " is not one of " ++
      Text.join ", ".toList (Library.all.map fun library => library.name.quoted) ++ "."))

/-- The source root, which must exist and must not be a file. -/
def rootPath (disk : Disk) (value : Text) : Except UsageError Text :=
  match disk.stat value with
  | .error _ =>
    .error (.badValue .sourceRoot ("Directory " ++ value.quoted ++ " does not exist."))
  | .ok status =>
    if status.isDirectory then .ok value
    else .error (.badValue .sourceRoot ("Directory " ++ value.quoted ++ " is a file."))

/-- The values given for a parameter, in order. -/
def valuesOf (given : List Given) (parameter : Parameter) : List Text :=
  given.filterMap fun entry =>
    match entry with
    | .text other value => if other = parameter then some value else none
    | _ => none

/-- The last position of a switch, if it was given. -/
def switchOf (given : List Given) (parameter : Parameter) : Option Bool :=
  (given.filterMap fun entry =>
    match entry with
    | .switch other on => if other = parameter then some on else none
    | _ => none).getLast?

def settle (disk : Disk) (given : List Given) (parameters : Parameters) :
    Parameter → Except UsageError Parameters
  | .config => do
    match (valuesOf given .config).getLast? with
    | some value =>
      let path ← configPath disk value
      return { parameters with config := some path }
    | none => return parameters
  | .pattern => .ok { parameters with pattern := (valuesOf given .pattern).getLast? }
  | .generators => do
    let names ← (valuesOf given .generators).mapM generatorName
    return { parameters with generators := names }
  | .tag => .ok { parameters with tag := (valuesOf given .tag).getLast? }
  | .prettier => .ok { parameters with prettier := switchOf given .prettier }
  | .addGenerationComment =>
    .ok { parameters with
      addGenerationComment := (switchOf given .addGenerationComment).getD false }
  | .verbose => .ok { parameters with verbose := (switchOf given .verbose).getD false }
  | .sourceRoot => do
    match (valuesOf given .sourceRoot).getLast? with
    | some value =>
      let path ← rootPath disk value
      return { parameters with sourceRoot := some path }
    | none => return parameters

/-- The parameters in the order in which they were first given. -/
def orderOf (given : List Given) : List Parameter :=
  (given.filterMap Given.parameter?).foldl (fun found parameter =>
    if found.contains parameter then found else found ++ [parameter]) []

/-- The values of all parameters, unless help is wished for. -/
def parameters (disk : Disk) (arguments : List Text) : Except UsageError (Option Parameters) := do
  let (given, positional) ← read arguments
  if given.contains .help then return none
  let root := positional.head?.map (Given.text .sourceRoot)
  let given := given ++ root.toList
  let parameters ← (orderOf given).foldlM (settle disk given) {}
  let extra := positional.drop 1
  if !extra.isEmpty then throw (.extraArguments extra)
  return some parameters

end Arguments

end Companion
