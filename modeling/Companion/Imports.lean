import Companion.Failure
import Companion.Syntax.Module
import Companion.TypeExpr.Basic

/-!
# Imported names

A name used in a module is imported if an import statement has a specifier with that local name. The
first such specifier in source order decides, and only the statement that holds it has to name its
module properly.

A `Resolver` answers any number of questions about one module and remembers its answers.
-/

set_option autoImplicit false

namespace Companion.Imports

open Syntax

def specifiers (statement : Node) : List Node :=
  ((statement.childrenOf .importClause).flatMap (·.childrenOf .namedImports)).flatMap
    (·.childrenOf .importSpecifier)

def specifierNames (specifier : Node) : Option (Text × Text) :=
  (specifier.child? .name).map fun name =>
    (name.text, ((specifier.child? .localName).getD name).text)

/-- The module that an import statement imports from; `path` is that of the importing module. -/
def moduleSpecifier (path : Text) (statement : Node) : Except Failure Text :=
  match statement.child? .source with
  | none => .error (.inconsistent (.malformedImport path statement.line))
  | some source =>
    if source.kind ≠ .string then
      .error (.inconsistent (.malformedImport path statement.line))
    else if source.text.length < 2 || source.text.head? ≠ source.text.getLast? ||
        source.text.inner.isEmpty then
      .error (.inconsistent (.malformedImportSource source.text path statement.line))
    else .ok source.text.inner

/-- The imported name of the first specifier of a statement that has a local name. -/
def importedAs (name : Text) (statement : Node) : Option Text :=
  (specifiers statement).findSome? fun specifier =>
    match specifierNames specifier with
    | some (imported, localName) => if localName = name then some imported else none
    | none => none

/-- The import that binds a name, given the import statements of the module at `path`. -/
def find (path : Text) (name : Text) : List Node → Except Failure (Option ImportedName)
  | [] => .ok none
  | statement :: rest =>
    match importedAs name statement with
    | some imported => do
      let specifier ← moduleSpecifier path statement
      return some ⟨name, imported, specifier⟩
    | none => find path name rest

/-- The imports of one module together with the answers given so far. -/
structure Resolver where
  path : Text
  statements : List Node
  known : List (Text × Option ImportedName) := []

namespace Resolver

def ofModule (source : Module) : Resolver := ⟨source.path, source.imports, []⟩

/-- Looks up the import that binds a name; failures are not remembered. -/
def find (resolver : Resolver) (name : Text) :
    Except Failure (Option ImportedName) × Resolver :=
  match resolver.known.lookup name with
  | some answer => (.ok answer, resolver)
  | none =>
    match Imports.find resolver.path name resolver.statements with
    | .ok answer => (.ok answer, { resolver with known := (name, answer) :: resolver.known })
    | .error failure => (.error failure, resolver)

def moduleOf (resolver : Resolver) (name : Text) : Except Failure (Option Text) × Resolver :=
  let (answer, resolver) := resolver.find name
  (answer.map fun found => found.map (·.specifier), resolver)

end Resolver

end Companion.Imports
