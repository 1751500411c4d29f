import Companion.Files.Store
import Companion.Run.Pipeline

/-!
# Generation

What happens in a run, module by module: each module is read, each of its annotated declarations is
built, and each generator named in a directive is asked for a companion. The fragments are collected
file by file. A run stops at the first failure; everything before it has then been seen and nothing
behind it.
-/

set_option autoImplicit false

namespace Companion

/-- What happens while companions are generated. -/
inductive Event where
  | scanning (path : Text)
  | generating (generator declaration target : Text)
  | produced (target : Text) (fragment : Artifact)
  | failed (failure : Failure)

/-- A wish for a companion: the declaration, the name of the generator, and the line of the
directive. -/
structure Request where
  declaration : Declaration
  generator : Text
  line : Option Int
deriving Repr

/-- The companions that the directives of a declaration ask for, in order, repetitions included. -/
def Declaration.requests (declaration : Declaration) : List Request :=
  declaration.directives.flatMap fun directive =>
    directive.generators.map fun name => ⟨declaration, name, directive.line⟩

namespace Pipeline

variable {σ : Type} [FileStore σ]

/-- The paths of the modules of a store, in the order in which they are read. -/
def discover (pipeline : Pipeline) (store : σ) : Except Failure (List Text) :=
  match pipeline.root with
  | .path root => FileStore.walk store pipeline.accepts root
  | .unusable => .error .badShape
  | .unnamed => do
    let entries ← FileStore.list store []
    if entries.isEmpty then return [] else throw .badShape

/-- What a module's companions are generated in, for one plugin and target. -/
def context (pipeline : Pipeline) (source : Syntax.Module) (plugin : Plugin) (target : Text) :
    CompanionContext where
  working := pipeline.working
  sourceFile := source.path
  companionPath := target
  find := some fun name => Imports.find source.path name source.imports
  companionSpecifier := plugin.companionSpecifier

def requestEvents (pipeline : Pipeline) (source : Syntax.Module) (request : Request) : List Event :=
  match pipeline.plugin? request.generator with
  | none => [.failed (.unknownGenerator request.generator ⟨source.path, request.line⟩)]
  | some plugin =>
    match plugin.companionPath source.path with
    | .error failure => [.failed failure]
    | .ok target =>
      if target = source.path then
        [.failed (.inconsistent (.overwritesSource request.generator source.path))]
      else
        .generating request.generator request.declaration.name target ::
          match plugin.generate (pipeline.context source plugin target) request.declaration with
          | .error failure => [.failed failure]
          | .ok fragment => [.produced target fragment]

def statementEvents (pipeline : Pipeline) (source : Syntax.Module)
    (annotated : MarkedStatement) : List Event :=
  match Declaration.ofStatement (.ofImports source.path source.imports) annotated with
  | .error failure => [.failed failure]
  | .ok declaration => declaration.requests.flatMap (pipeline.requestEvents source)

def annotated (pipeline : Pipeline) (source : Syntax.Module) :
    Except Failure (List MarkedStatement) :=
  match pipeline.tag with
  | some tag => source.annotated tag
  | none => .ok []

def moduleEvents (pipeline : Pipeline) (source : Syntax.Module) : List Event :=
  match pipeline.annotated source with
  | .error failure => [.failed failure]
  | .ok statements => statements.flatMap (pipeline.statementEvents source)

def pathEvents (pipeline : Pipeline) (store : σ) (path : Text) : List Event :=
  .scanning path ::
    match FileStore.read store path with
    | .error failure => [.failed failure]
    | .ok text => pipeline.moduleEvents (pipeline.readModule path text)

/-- Everything that happens if nothing stops at failures. -/
def events (pipeline : Pipeline) (store : σ) : List Event :=
  match pipeline.discover store with
  | .error failure => [.failed failure]
  | .ok paths => paths.flatMap (pipeline.pathEvents store)

end Pipeline

namespace Event

def collect : FileSet → List Event → Except Failure FileSet
  | files, [] => .ok files
  | files, scanning _ :: rest => collect files rest
  | files, generating _ _ _ :: rest => collect files rest
  | files, produced target fragment :: rest => collect (files.add target fragment) rest
  | _, failed failure :: _ => .error failure

def log : List Event → List LogEntry
  | [] => []
  | scanning path :: rest => .scanning path :: log rest
  | generating generator declaration target :: rest =>
    .generating generator declaration target :: log rest
  | produced _ _ :: rest => log rest
  | failed _ :: _ => []

end Event

def Pipeline.generate {σ : Type} [FileStore σ] (pipeline : Pipeline) (store : σ) :
    Except Failure FileSet :=
  Event.collect {} (pipeline.events store)

end Companion
