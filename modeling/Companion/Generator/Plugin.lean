import Companion.Declaration
import Companion.Generator.Expression
import Companion.Output.Artifact

/-!
# Generator plugins

A plugin generates companions in one dialect. It has a name, by which directives ask for it, and it
knows into which file the companions of a module go and by which specifier companions are imported.
-/

set_option autoImplicit false

namespace Companion

inductive Library where
  | zod
  | fastCheck
deriving DecidableEq, Repr

namespace Library

/-- All libraries, in the order in which they are listed. -/
def all : List Library := [zod, fastCheck]

/-- The name of a library, which is that of its plugin unless another one is chosen. -/
def name : Library → Text
  | zod => "zod"
  | fastCheck => "fast-check"

def ofName? (text : Text) : Option Library := all.find? fun candidate => candidate.name = text

def dialect : Library → Dialect
  | zod => .zod
  | fastCheck => .fastCheck

end Library

structure Plugin where
  name : Text
  library : Library
  /-- Maps the path of a module to the path of the file its companions go into. -/
  companionPath : Text → Except Failure Text
  /-- Maps the specifier of a module to the specifier of its companions. -/
  companionSpecifier : Text → Except Failure Text

namespace Plugin

/-- The import of the type itself, under its name with a dollar sign in front. -/
def typeImport (name specifier : Text) : Text :=
  "import \x7b type " ++ name ++ " as $" ++ name ++ " \x7d from '" ++ specifier ++ "';"

/-- Generates the companion of a declaration, which must be a type alias: the type under its own
name and the companion next to it. -/
def generate (plugin : Plugin) (context : CompanionContext) (declaration : Declaration) :
    Except Failure Artifact := do
  let unsupported : Failure :=
    .unsupportedDeclaration plugin.name declaration.syntaxName declaration.location
  if declaration.kind ≠ .typeAlias then throw unsupported
  match declaration.type with
  | none => throw unsupported
  | some type =>
    let dialect := plugin.library.dialect
    let expression ← dialect.express context type
    let specifier ←
      Specifier.relativeImport context.working context.sourceFile context.companionPath
    return {
      imports := dialect.libraryImports ++ [typeImport declaration.name specifier] ++
        expression.imports.map NamedImport.render
      statements := [Dialect.aliasStatement declaration.name,
        dialect.companionStatement declaration.name expression.code] }

end Plugin

end Companion
