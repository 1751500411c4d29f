import Companion.Proofs.Generator.Plugin
import Companion.Proofs.Output.FileSet
import Companion.Run.Generation

/-!
# Requests of a run

What a run is asked for, read off the files without running: the requests of all modules in order,
and the steps that have to succeed for them. Generating succeeds exactly when every step does, and
then the files hold the companions of the requests and nothing else; otherwise it ends in the failure
of the first step that fails.
-/

set_option autoImplicit false

namespace Companion

/-- A request together with the module that makes it. -/
structure ModuleRequest where
  source : Syntax.Module
  request : Request

namespace Pipeline

/-- The directives of a comment of a module. -/
def directivesIn (pipeline : Pipeline) (source : Syntax.Module) (comment : Syntax.Comment) :
    Except Failure (List Directive) :=
  match pipeline.tag with
  | some tag => Directive.ofComment tag comment.text ⟨source.path, some comment.line⟩
  | none => .ok []

/-- The directives in front of a statement. Comments that cannot be read count as empty. -/
def directivesBefore (pipeline : Pipeline) (source : Syntax.Module) (statement : Syntax.Statement) :
    List Directive :=
  (source.commentsBefore statement).flatMap fun comment =>
    (pipeline.directivesIn source comment).toOption.getD []

/-- The statements of a module that carry directives, in source order. -/
def marked (pipeline : Pipeline) (source : Syntax.Module) : List MarkedStatement :=
  source.statements.filterMap fun statement =>
    let directives := pipeline.directivesBefore source statement
    if directives.isEmpty then none else some ⟨statement, directives⟩

/-- The declaration that an annotated statement of a module makes. -/
def declared (source : Syntax.Module) (statement : MarkedStatement) : Except Failure Declaration :=
  Declaration.ofStatement (.ofImports source.path source.imports) statement

/-- The requests of an annotated statement: directive by directive, name by name. -/
def statementRequests (source : Syntax.Module) (statement : MarkedStatement) :
    List ModuleRequest :=
  match declared source statement with
  | .ok declaration => declaration.requests.map fun request => ⟨source, request⟩
  | .error _ => []

/-- The requests of a module, statement by statement. -/
def moduleRequests (pipeline : Pipeline) (source : Syntax.Module) : List ModuleRequest :=
  (pipeline.marked source).flatMap (statementRequests source)

variable {σ : Type} [FileStore σ]

/-- The requests of the module at a path. -/
def requestsAt (pipeline : Pipeline) (store : σ) (path : Text) : List ModuleRequest :=
  match FileStore.read store path with
  | .ok text => pipeline.moduleRequests (pipeline.readModule path text)
  | .error _ => []

/-- The paths of the modules found, in walk order. -/
def modulePaths (pipeline : Pipeline) (store : σ) : List Text :=
  (pipeline.discover store).toOption.getD []

/-- The requests of all modules, in walk order. -/
def requests (pipeline : Pipeline) (store : σ) : List ModuleRequest :=
  (pipeline.modulePaths store).flatMap (pipeline.requestsAt store)

/-- The steps of a run that may fail. -/
inductive Step where
  /-- Finding the modules. -/
  | discovering
  /-- Reading the text of a module. -/
  | reading (path : Text)
  /-- Reading the directives of a comment in front of a statement. -/
  | scanning (source : Syntax.Module) (comment : Syntax.Comment)
  /-- Building the declaration of an annotated statement. -/
  | declaring (source : Syntax.Module) (statement : MarkedStatement)
  /-- Looking up the generator that a request names. -/
  | choosing (source : Syntax.Module) (request : Request)
  /-- Finding the file of a companion, which must not be spelled like its module. -/
  | placing (source : Syntax.Module) (request : Request) (plugin : Plugin)
  /-- Generating a companion. -/
  | generating (source : Syntax.Module) (request : Request) (plugin : Plugin) (target : Text)

/-- The failure that a step ends in. -/
def Step.failure? (pipeline : Pipeline) (store : σ) : Step → Option Failure
  | discovering => Failure.of? (pipeline.discover store)
  | reading path => Failure.of? (FileStore.read store path)
  | scanning source comment => Failure.of? (pipeline.directivesIn source comment)
  | declaring source statement => Failure.of? (declared source statement)
  | choosing source request =>
    match pipeline.plugin? request.generator with
    | some _ => none
    | none => some (.unknownGenerator request.generator ⟨source.path, request.line⟩)
  | placing source request plugin =>
    match plugin.companionPath source.path with
    | .error failure => some failure
    | .ok target =>
      if target = source.path then
        some (.inconsistent (.overwritesSource request.generator source.path))
      else none
  | generating source request plugin target =>
    Failure.of? (plugin.generate (pipeline.context source plugin target) request.declaration)

/-- The steps for a request. Those behind a step that fails are never reached. -/
def requestSteps (pipeline : Pipeline) (source : Syntax.Module) (request : Request) : List Step :=
  .choosing source request ::
    match pipeline.plugin? request.generator with
    | none => []
    | some plugin =>
      .placing source request plugin ::
        match plugin.companionPath source.path with
        | .error _ => []
        | .ok target => [.generating source request plugin target]

/-- The steps for an annotated statement: its declaration comes before its requests. -/
def statementSteps (pipeline : Pipeline) (source : Syntax.Module) (statement : MarkedStatement) :
    List Step :=
  .declaring source statement ::
    match declared source statement with
    | .error _ => []
    | .ok declaration => declaration.requests.flatMap (pipeline.requestSteps source)

/-- The steps for a module: all comments in front of its statements come before its declarations. -/
def moduleSteps (pipeline : Pipeline) (source : Syntax.Module) : List Step :=
  (source.statements.flatMap source.commentsBefore).map (Step.scanning source) ++
    (pipeline.marked source).flatMap (pipeline.statementSteps source)

/-- The steps for the module at a path. -/
def pathSteps (pipeline : Pipeline) (store : σ) (path : Text) : List Step :=
  .reading path ::
    match FileStore.read store path with
    | .error _ => []
    | .ok text => pipeline.moduleSteps (pipeline.readModule path text)

/-- The steps of a run, in order. -/
def steps (pipeline : Pipeline) (store : σ) : List Step :=
  .discovering :: (pipeline.modulePaths store).flatMap (pipeline.pathSteps store)

end Pipeline

/-- A request that has been met: the plugin it is met by, the file that the companion goes into, and
what is generated. -/
structure Fulfilment (pipeline : Pipeline) extends ModuleRequest where
  plugin : Plugin
  target : Text
  type : TypeExpr
  expression : Code
  specifier : Text
  registered : pipeline.plugin? request.generator = some plugin
  placed : plugin.companionPath source.path = .ok target
  apart : target ≠ source.path
  isAlias : request.declaration.kind = .typeAlias
  typed : request.declaration.type = some type
  expressed : plugin.library.dialect.express (pipeline.context source plugin target) type =
    .ok expression
  imported : Specifier.relativeImport pipeline.working source.path target = .ok specifier

namespace Fulfilment

variable {pipeline : Pipeline}

/-- The import lines of a companion. -/
def imports (met : Fulfilment pipeline) : List Text :=
  (met.plugin.fragment met.request.declaration met.expression met.specifier).imports

/-- The two statements of a companion: the type under its own name and the companion itself. -/
def statements (met : Fulfilment pipeline) : List Text :=
  [Dialect.aliasStatement met.request.declaration.name,
    met.plugin.library.dialect.companionStatement met.request.declaration.name met.expression.code]

/-- What goes into the file of a companion. -/
def placement (met : Fulfilment pipeline) : FileSet.Placement :=
  (met.target, ⟨met.imports, met.statements⟩)

end Fulfilment

/-- Files hold what has been generated: a file for each path in the order of first use, in it the
statements of the companions that belong there, and each of their import lines once. -/
structure FileSet.Collects {pipeline : Pipeline} (files : FileSet)
    (fulfilled : List (Fulfilment pipeline)) : Prop where
  paths : files.paths = Text.distinct (fulfilled.map (·.target))
  statements : ∀ entry ∈ files.entries,
    entry.2.statements = (fulfilled.filter (·.target = entry.1)).flatMap (·.statements)
  imports : ∀ entry ∈ files.entries,
    entry.2.imports = Text.distinct ((fulfilled.filter (·.target = entry.1)).flatMap (·.imports))

end Companion
