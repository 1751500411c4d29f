import Companion.Config.Settings
import Companion.Pattern.Search
import Companion.Pattern.Parser

/-!
# Run configurations

What a configuration amounts to for one run: plugins that can generate, a formatter if one is
enabled, and the header of generated files if they are to have one.
-/

set_option autoImplicit false

namespace Companion

/-- A configuration made ready for a run. -/
structure RunSettings where
  sourceRoot : Value
  sourcePattern : Value := .null
  plugins : List Plugin := []
  formatter : Option FormatterSettings := none
  directiveTag : Value := .string Directive.usualTag
  header : Option Text := none

def defaultHeader : Text := "// Generated by ts_ppx"

/-- Makes a configuration ready for a run; `comment` is the header to use if generated files are to
have one. -/
def Config.runSettings (config : Config) (comment : Option Text) : Except Failure RunSettings := do
  if !config.isRunnable then throw .badShape
  let generators ← config.generators.toList
  let plugins ← generators.mapM GeneratorSettings.plugin
  let formatter ← config.formatter.settings
  let header := match comment with
    | some (c :: line) => c :: line
    | _ => defaultHeader
  return {
    sourceRoot := config.sourceRoot
    sourcePattern := config.sourcePattern
    plugins := plugins
    formatter := if formatter.enabled.isTruthy then some formatter else none
    directiveTag := config.directiveTag
    header := if config.addGenerationComment.isTruthy then some header else none }

namespace RunSettings

/-- The pattern that paths must match; a setting that counts as no lets all paths pass. -/
def pattern (config : RunSettings) : Except Failure (Option Pattern) :=
  if !config.sourcePattern.isTruthy then .ok none
  else
    match config.sourcePattern with
    | .string text =>
      match Pattern.parse text with
      | .ok pattern => .ok (some pattern)
      | .error error => .error (.invalidPattern error)
    | _ => .error .badShape

/-- The first name that two plugins share. -/
def sharedName? : List Text → List Plugin → Option Text
  | _, [] => none
  | seen, plugin :: rest =>
    if seen.contains plugin.name then some plugin.name
    else sharedName? (seen ++ [plugin.name]) rest

end RunSettings

end Companion
