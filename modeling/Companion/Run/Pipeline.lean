import Companion.Config.RunSettings
import Companion.Formatter.Chain
import Companion.Output.FileSet

/-!
# Pipelines

A run configuration with everything settled that does not depend on the files: where modules are
sought and which ones, the generators by name, the tag of directives, the header and the formatters.
-/

set_option autoImplicit false

namespace Companion

/-- The directory below which modules are sought. -/
inductive SourceRoot where
  | path (root : Text)
  /-- A setting that counts as no and is no text; it stands for the working directory, whose entries
  cannot be named. -/
  | unnamed
  /-- A setting that is no path at all. -/
  | unusable
deriving DecidableEq, Repr

def SourceRoot.ofValue : Value → SourceRoot
  | .string root => path root
  | value => if value.isTruthy then unusable else unnamed

/-- A run without its files. -/
structure Pipeline where
  root : SourceRoot
  /-- The path of the working directory. -/
  working : Text := ['/']
  pattern : Option Pattern := none
  plugins : List Plugin := []
  /-- The tag of directives; without one there are none. -/
  tag : Option Text := some Directive.usualTag
  header : Option Text := none
  formatters : List Formatter := []
  /-- How the text of a module at a path is read. -/
  readModule : Text → Text → Syntax.Module := Syntax.Module.read

namespace Pipeline

/-- Settles a run configuration for a working directory; further formatters may come behind the
configured one. -/
def ofConfig (config : RunSettings) (further : List Formatter := []) (working : Text := ['/']) :
    Except Failure Pipeline := do
  let pattern ← config.pattern
  match RunSettings.sharedName? [] config.plugins with
  | some name => throw (.duplicateGenerator name)
  | none =>
    let program := config.formatter.map fun settings => Formatter.program ⟨settings, none, []⟩
    return {
      root := .ofValue config.sourceRoot
      working := working
      pattern := pattern
      plugins := config.plugins
      tag := config.directiveTag.text?
      header := config.header
      formatters := program.toList ++ further }

def plugin? (pipeline : Pipeline) (name : Text) : Option Plugin :=
  pipeline.plugins.find? fun plugin => plugin.name = name

def accepts (pipeline : Pipeline) (path : Text) : Bool :=
  match pipeline.pattern with
  | some pattern => pattern.search path
  | none => true

end Pipeline

end Companion
