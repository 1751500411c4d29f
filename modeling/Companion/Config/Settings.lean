import Companion.Config.Relocation
import Companion.Generator.Plugin

/-!
# Settings

A configuration as it was written. Values are taken as they come and looked at when they are used,
so that a value of a wrong shape does no harm where it is not needed.

Generators and the formatter are read when they have the right outer shape and kept raw otherwise.
Some names are reserved: a value under the name of an operation takes that operation away, two names
cannot be given at all, and one replaces all settings at once.
-/

set_option autoImplicit false

namespace Companion

/-- A generator as it was configured. -/
structure GeneratorSettings where
  name : Value := .string []
  fileRelocation : RelocationSettings := {}
  specifierRelocation : RelocationSettings := {}
deriving Repr

namespace GeneratorSettings

/-- The relocation in a member if that is an object, the usual one otherwise. -/
def relocationIn (members : List (Text × Value)) (name : Text) :
    Except Failure RelocationSettings :=
  match Value.member? members name with
  | some (.object relocation) => RelocationSettings.ofMembers relocation
  | _ => .ok {}

def ofValue : Value → Except Failure GeneratorSettings
  | .object members => do
    let fileRelocation ← relocationIn members "target_path"
    let specifierRelocation ← relocationIn members "target_import_path"
    return ⟨(Value.member? members "name").getD (.string []), fileRelocation, specifierRelocation⟩
  | _ => .error .badShape

def toValue (settings : GeneratorSettings) : Value :=
  .object [("name", settings.name), ("target_path", settings.fileRelocation.toValue),
    ("target_import_path", settings.specifierRelocation.toValue)]

/-- The plugin that is configured. Its name must be that of a library. -/
def plugin (settings : GeneratorSettings) : Except Failure Plugin :=
  if !settings.name.isKey then .error .badShape
  else
    match settings.name.text?.bind Library.ofName? with
    | some library =>
      .ok ⟨library.name, library, settings.fileRelocation.apply, settings.specifierRelocation.apply⟩
    | none => .error (.unknownPlugin settings.name.quoted)

/-- The generators of a configuration that names none. -/
def defaults : List GeneratorSettings :=
  [{ name := .string "zod" },
    { name := .string "fast-check", fileRelocation := { subdirectory := .string "testing" } }]

end GeneratorSettings

/-- A formatter as it was configured. -/
structure FormatterSettings where
  enabled : Value := .boolean false
  command : Value := .array [.string "prettier"]
  parser : Value := .string "typescript"
  printWidth : Value := .null
  timeout : Value := .integer 30
  extraArguments : Value := .array []
deriving Repr

namespace FormatterSettings

/-- Sets one of the settings by its name; other names are refused. -/
def set (settings : FormatterSettings) (name : Text) (value : Value) :
    Except Failure FormatterSettings :=
  if name = "enabled".toList then .ok { settings with enabled := value }
  else if name = "command".toList then .ok { settings with command := value }
  else if name = "parser".toList then .ok { settings with parser := value }
  else if name = "print_width".toList then .ok { settings with printWidth := value }
  else if name = "timeout".toList then .ok { settings with timeout := value }
  else if name = "extra_args".toList then .ok { settings with extraArguments := value }
  else .error .badShape

def ofMembers (members : List (Text × Value)) : Except Failure FormatterSettings :=
  members.foldlM (fun settings member => settings.set member.1 member.2) {}

def toValue (settings : FormatterSettings) : Value :=
  .object [("enabled", settings.enabled), ("command", settings.command),
    ("parser", settings.parser), ("print_width", settings.printWidth),
    ("timeout", settings.timeout), ("extra_args", settings.extraArguments)]

end FormatterSettings

inductive GeneratorList where
  | listed (generators : List GeneratorSettings)
  /-- A value that is no list. -/
  | raw (value : Value)
  | missing
deriving Repr

namespace GeneratorList

/-- A value kept as it is; an empty array lists nothing. -/
def ofRaw : Value → GeneratorList
  | .array [] => listed []
  | value => raw value

/-- The generators, if what is there can be gone through. -/
def toList : GeneratorList → Except Failure (List GeneratorSettings)
  | listed generators => .ok generators
  | raw (.string []) => .ok []
  | raw (.object []) => .ok []
  | _ => .error .badShape

end GeneratorList

inductive FormatterChoice where
  | given (settings : FormatterSettings)
  /-- A value that has no members. -/
  | raw (value : Value)
  | missing
deriving Repr

/-- The settings, if there are any. -/
def FormatterChoice.settings : FormatterChoice → Except Failure FormatterSettings
  | given settings => .ok settings
  | _ => .error .badShape

/-- A configuration as it was written. -/
structure Config where
  sourceRoot : Value := .string "."
  sourcePattern : Value := .null
  directiveTag : Value := .string Directive.usualTag
  generators : GeneratorList := .listed GeneratorSettings.defaults
  formatter : FormatterChoice := .given {}
  addGenerationComment : Value := .boolean false
  /-- Whether the configuration can still be turned into a value. -/
  isDescribable : Bool := true
  /-- Whether the configuration can still be used for a run. -/
  isRunnable : Bool := true
deriving Repr

namespace Config

/-- The configuration given by all its attributes at once; the settings that are not among them have
their usual values, except that there are no generators and there is no formatter. -/
def ofAttributes (members : List (Text × Value)) : Config :=
  let usual : Config := {}
  let value : String → Value → Value := fun name other => (Value.member? members name).getD other
  { sourceRoot := value "source_root" usual.sourceRoot
    sourcePattern := value "source_pattern" usual.sourcePattern
    directiveTag := value "directive_tag" usual.directiveTag
    addGenerationComment := value "add_generation_comment" usual.addGenerationComment
    generators := ((Value.member? members "generators").map GeneratorList.ofRaw).getD .missing
    formatter := ((Value.member? members "formatter").map FormatterChoice.raw).getD .missing
    isDescribable := (Value.member? members "to_dict").isNone
    isRunnable := (Value.member? members "build_run_config").isNone }

def setGenerators (config : Config) (value : Value) : Except Failure Config :=
  match value, config.generators with
  | .array items, _ => do
    let generators ← items.mapM GeneratorSettings.ofValue
    return { config with generators := .listed generators }
  | _, .missing => .ok config
  | value, _ => .ok { config with generators := .ofRaw value }

def setFormatter (config : Config) (value : Value) : Except Failure Config :=
  match value, config.formatter with
  | .object members, _ => do
    let settings ← FormatterSettings.ofMembers members
    return { config with formatter := .given settings }
  | _, .missing => .ok config
  | value, _ => .ok { config with formatter := .raw value }

/-- Sets what a reserved name stands for; names that are not reserved are ignored. -/
def setReserved (config : Config) (name : Text) (value : Value) : Except Failure Config :=
  if name = "to_dict".toList then .ok { config with isDescribable := false }
  else if name = "build_run_config".toList then .ok { config with isRunnable := false }
  else if name = "__class__".toList || name = "__weakref__".toList then .error .badShape
  else if name = "__dict__".toList then
    match value with
    | .object members => .ok (ofAttributes members)
    | _ => .error .badShape
  else .ok config

def set (config : Config) (name : Text) (value : Value) : Except Failure Config :=
  if name = "source_root".toList then .ok { config with sourceRoot := value }
  else if name = "source_pattern".toList then .ok { config with sourcePattern := value }
  else if name = "directive_tag".toList then .ok { config with directiveTag := value }
  else if name = "add_generation_comment".toList then
    .ok { config with addGenerationComment := value }
  else if name = "generators".toList then config.setGenerators value
  else if name = "formatter".toList then config.setFormatter value
  else config.setReserved name value

/-- Reads a configuration off a value that has members, in their order. -/
def ofValue : Value → Except Failure Config
  | .object members => members.foldlM (fun config member => config.set member.1 member.2) {}
  | _ => .error .badShape

def toValue (config : Config) : Except Failure Value := do
  if !config.isDescribable then throw .badShape
  let generators ← config.generators.toList
  let formatter ← config.formatter.settings
  return .object [("source_root", config.sourceRoot), ("source_pattern", config.sourcePattern),
    ("directive_tag", config.directiveTag),
    ("generators", .array (generators.map GeneratorSettings.toValue)),
    ("formatter", formatter.toValue), ("add_generation_comment", config.addGenerationComment)]

/-- Whether two lists of generators are the same; a raw value is no list. -/
def sameGenerators : GeneratorList → GeneratorList → Bool
  | .listed left, .listed right =>
    (Value.array (left.map GeneratorSettings.toValue)) ==
      .array (right.map GeneratorSettings.toValue)
  | .raw left, .raw right => left == right
  | .missing, .missing => true
  | _, _ => false

def sameFormatter : FormatterChoice → FormatterChoice → Bool
  | .given left, .given right => left.toValue == right.toValue
  | .raw left, .raw right => left == right
  | .missing, .missing => true
  | _, _ => false

def same (left right : Config) : Bool :=
  left.sourceRoot == right.sourceRoot && left.sourcePattern == right.sourcePattern &&
    left.directiveTag == right.directiveTag && sameGenerators left.generators right.generators &&
    sameFormatter left.formatter right.formatter &&
    left.addGenerationComment == right.addGenerationComment

def survivesRoundTrip (config : Config) : Except Failure Bool := do
  let value ← config.toValue
  let again ← ofValue value
  return same again config

end Config

end Companion
