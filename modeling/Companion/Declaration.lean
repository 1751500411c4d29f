import Companion.Directive
import Companion.TypeExpr.Elaboration

/-!
# Declarations

What an annotated statement declares: its name, what kind of thing it is, and for a type alias the
type it stands for. Other declarations are kept, so that a generator can say what it was asked for.
-/

set_option autoImplicit false

namespace Companion

open Syntax

inductive DeclarationForm where
  | typeAlias
  | interfaceType
  | classType
  | enumeration
  | function
  | bindings
  | other
deriving DecidableEq, Repr

namespace DeclarationForm

/-- The kind of the declarations of a syntax kind. -/
def ofSyntax : Kind → DeclarationForm
  | .typeAliasDeclaration => typeAlias
  | .interfaceDeclaration => interfaceType
  | .classDeclaration | .abstractClassDeclaration => classType
  | .enumDeclaration => enumeration
  | .functionDeclaration | .generatorFunctionDeclaration | .functionSignature => function
  | .lexicalDeclaration | .variableDeclaration => bindings
  | _ => other

def name : DeclarationForm → Text
  | typeAlias => "type_alias"
  | interfaceType => "interface"
  | classType => "class"
  | enumeration => "enum"
  | function => "function"
  | bindings => "variable"
  | other => "other"

def ofName? (text : Text) : Option DeclarationForm :=
  [typeAlias, interfaceType, classType, enumeration, function, bindings, other].find? fun kind =>
    kind.name = text

end DeclarationForm

structure Declaration where
  name : Text
  kind : DeclarationForm
  /-- The syntax kind, as messages name it. -/
  syntaxName : Text
  /-- The type an alias stands for. -/
  type : Option TypeExpr := none
  directives : List Directive := []
  location : Location := {}
deriving Repr

namespace Declaration

/-- The name that a node declares: its own, or that of the first declarator that has one. -/
def nameOf (node : Node) : Text :=
  match node.child? .name with
  | some name => name.text
  | none =>
    (((node.childrenOf .variableDeclarator).findSome? fun declarator =>
      declarator.child? .name).map (·.text)).getD []

/-- The type of an alias: it must have no type parameters and a type. -/
def aliasType (scope : TypeExpr.Scope) (node : Node) : Except Failure TypeExpr :=
  if (node.child? .typeParameters).isSome then
    scope.unsupported "type_parameters" node.line
  else
    match node.child? .value with
    | none => .error (.inconsistent (.aliasWithoutValue scope.path node.line))
    | some value => TypeExpr.elaborate scope value

/-- The declaration made by a node inside the statement that starts at `line`. -/
def ofNode (scope : TypeExpr.Scope) (node : Node) (line : Int) (directives : List Directive) :
    Except Failure Declaration := do
  let kind := DeclarationForm.ofSyntax node.kind
  let declaration : Declaration :=
    { name := nameOf node
      kind := kind
      syntaxName := node.kind.name
      directives := directives
      location := ⟨scope.path, some line⟩ }
  if kind = .typeAlias then
    let type ← aliasType scope node
    return { declaration with type := some type }
  else return declaration

def ofStatement (scope : TypeExpr.Scope) (annotated : MarkedStatement) :
    Except Failure Declaration :=
  ofNode scope annotated.statement.declaration annotated.statement.node.line annotated.directives

end Declaration

end Companion
