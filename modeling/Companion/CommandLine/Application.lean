import Companion.CommandLine.CommandText
import Companion.Files.AtomicWrite
import Companion.Run.Writing
import Companion.Value.Reader

/-!
# The command

What the command does on a disk: it reads its arguments and perhaps a configuration file, lets the
arguments override the configuration, runs, and names the files it has written.
-/

set_option autoImplicit false

namespace Companion

/-- What is left of a call of the command. A failure that the command does not report itself is
`unhandled`. -/
structure CommandReport where
  status : Nat
  output : Text := []
  errors : Text := []
  unhandled : Option Failure := none
  disk : Disk

/-- Whether the command reports a failure itself: the causes that lie in what it was given, not
those that lie in the system or in the shape of a configuration. -/
def Failure.isReported : Failure → Bool
  | .badShape => false
  | .system _ => false
  | .timeTooLong => false
  | .endlessWalk => false
  | _ => true

namespace Application

def configOfText (text : Text) : Except Failure Config :=
  match Value.ofText? text with
  | some value => Config.ofValue value
  | none => .error .invalidJson

def configOfBytes (bytes : Bytes) : Except Failure Config := do
  let text ← Disk.decode bytes
  configOfText text

/-- The configuration of a call before its arguments override it: that of a file, or the usual one.
-/
def baseConfig (disk : Disk) (parameters : Parameters) : Except Failure Config :=
  match parameters.config with
  | none => .ok {}
  | some path => do
    let text ← disk.read path
    configOfText text

/-- The generators of a list that has a name; the last one counts. -/
def named (name : Text) (generators : List GeneratorSettings) : Option GeneratorSettings :=
  (generators.filter fun generator => generator.name.text? = some name).getLast?

/-- The generators with given names: as configured, or with their usual settings. -/
def chosenGenerators (config : Config) (names : List Text) :
    Except Failure (List GeneratorSettings) := do
  let configured ← config.generators.toList
  if configured.any fun generator => !generator.name.isKey then throw .badShape
  return names.map fun name =>
    ((named name configured).or (named name GeneratorSettings.defaults)).getD
      { name := .string name }

def override (parameters : Parameters) (config : Config) : Except Failure Config := do
  let config := match parameters.sourceRoot with
    | some root => { config with sourceRoot := .string (Disk.tidy root) }
    | none => config
  let config := match parameters.pattern with
    | some pattern => { config with sourcePattern := .string pattern }
    | none => config
  let config ← if parameters.generators.isEmpty then pure config else do
    let generators ← chosenGenerators config parameters.generators
    pure { config with generators := .listed generators }
  let config := match parameters.tag with
    | some tag => { config with directiveTag := .string tag }
    | none => config
  let config ← match parameters.prettier with
    | some enabled => do
      let settings ← config.formatter.settings
      pure { config with
        formatter := .given { settings with enabled := .boolean enabled } }
    | none => pure config
  return if parameters.addGenerationComment then
    { config with addGenerationComment := .boolean true } else config

/-- The pipeline for a configuration, in the working directory of the disk; its header names the
command. -/
def pipeline (disk : Disk) (parameters : Parameters) (config : Config) :
    Except Failure Pipeline := do
  let command ← CommandText.render (CommandText.lookupOn disk) (CommandText.valuesOf parameters)
  let runSettings ← config.runSettings (some (CommandText.header command))
  Pipeline.ofConfig runSettings [] disk.workingPath

/-- The report of a failure; `errors` has been shown before. -/
def reportFailure (disk : Disk) (errors : Text) (failure : Failure) : CommandReport :=
  if failure.isReported then
    { status := 1, errors := errors ++ "Error: " ++ failure.message ++ "\n", disk := disk }
  else { status := 1, errors := errors, unhandled := some failure, disk := disk }

def runWith (respond : Responder) (disk : Disk) (parameters : Parameters) : CommandReport :=
  match baseConfig disk parameters >>= override parameters with
  | .error failure => { status := 1, unhandled := some failure, disk := disk }
  | .ok config =>
    match pipeline disk parameters config with
    | .error failure => reportFailure disk [] failure
    | .ok pipeline =>
      let report := pipeline.run respond disk
      let errors := LogEntry.renderAll parameters.verbose report.log
      match report.result with
      | .error failure => reportFailure report.store errors failure
      | .ok paths =>
        { status := 0
          output := paths.flatMap fun path => path ++ ['\n']
          errors := errors
          disk := report.store }

def run (respond : Responder) (disk : Disk) (arguments : List Text) : CommandReport :=
  let refuse : UsageError → CommandReport := fun error =>
    { status := 2, errors := error.render, disk := disk }
  match Arguments.parameters disk arguments with
  | .error error => refuse error
  | .ok none => { status := 0, output := helpText, disk := disk }
  | .ok (some parameters) =>
    if parameters.config.isNone && parameters.sourceRoot.isNone then refuse .missingSourceRoot
    else runWith respond disk parameters

end Application

end Companion
