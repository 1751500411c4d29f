import Companion.Imports
import Companion.TypeExpr.Literal

/-!
# Elaborating type expressions

Reads a type expression off a syntax node. Parentheses, `Readonly<…>` and comments leave no trace,
nested unions become one, and an object is checked property by property, so that of several faults
the first in source order is reported.

The functions follow the tree: one for a node, the others for the lists of children in which
constituents, union members, properties or the holder of a role are sought.
-/

set_option autoImplicit false

namespace Companion.TypeExpr

open Syntax

/-- What a type is read against: the path of its module, for messages, and the module's imports. -/
structure Scope where
  path : Text
  find : Text → Except Failure (Option ImportedName)

def Scope.ofImports (path : Text) (statements : List Node) : Scope :=
  ⟨path, fun name => Imports.find path name statements⟩

def Scope.unsupported {α : Type} (scope : Scope) (construct : Text) (line : Int) :
    Except Failure α :=
  .error (.unsupportedType construct ⟨scope.path, some line⟩)

/-- The generic type that stands for its argument. -/
def transparentGeneric : Text := "Readonly"

def elaborateLiteral (scope : Scope) (node : Node) : Except Failure TypeExpr :=
  let child := node.constituents.head?.getD node
  let text := child.text.trim
  let line := some node.line
  if child.kind = .string then .ok (Literal.ofString text line)
  else
    match Literal.ofKeyword? text line with
    | some expression => .ok expression
    | none =>
      if child.kind = .number || child.kind = .unaryExpression || Literal.isNumber text then
        .ok (Literal.ofNumber text line)
      else scope.unsupported ("literal_type " ++ child.kind.name) node.line

/-- The name of a property and whether it is quoted, given the node of its key; `line` is that of
the property. -/
def keyOf (scope : Scope) (key : Node) (line : Int) : Except Failure (Text × Bool) :=
  if key.kind = .string then .ok (StringBody.betweenSingleQuotes key.text.inner, true)
  else if key.kind = .propertyIdentifier || key.kind = .number then .ok (key.text, false)
  else scope.unsupported key.kind.name line

def elaborateName (scope : Scope) (node : Node) : Except Failure TypeExpr :=
  match PrimitiveType.ofKeyword? node.text with
  | some kind => .ok (.primitive kind (some node.line))
  | none =>
    if node.kind = .typeIdentifier then do
      let origin ← scope.find node.text
      return .reference node.text origin (some node.line)
    else scope.unsupported (node.kind.name ++ " " ++ node.text) node.line

/-- A union of members, unless there is one only. -/
def ofMembers (line : Int) : List TypeExpr → TypeExpr
  | [member] => member
  | members => .union members (some line)

mutual

def elaborate (scope : Scope) : Node → Except Failure TypeExpr
  | ⟨kind, field, named, text, line, children⟩ =>
    let node : Node := ⟨kind, field, named, text, line, children⟩
    match kind with
    | .predefinedType | .typeIdentifier => elaborateName scope node
    | .literalType => elaborateLiteral scope node
    | .objectType => do
      let properties ← elaborateProperties scope children
      return .object properties (some line)
    | .unionType => do
      let members ← elaborateMembers scope children
      return ofMembers line members
    | .parenthesizedType =>
      match node.constituents.length, elaborateFirst scope children with
      | 1, some result => result
      | _, _ => scope.unsupported kind.name line
    | .genericType =>
      let name := ((node.child? .name).map (·.text)).getD []
      let arguments := ((node.child? .typeArguments).map (·.constituents)).getD []
      if name ≠ transparentGeneric then scope.unsupported ("generic_type " ++ name) line
      else
        match arguments.length, elaborateInRole scope .typeArguments children with
        | 1, some result => result
        | count, _ =>
          scope.unsupported
            ("generic_type " ++ name ++ " with " ++ Text.ofNat count ++ " type arguments") line
    | _ => scope.unsupported kind.name line

def elaborateFirst (scope : Scope) : List Node → Option (Except Failure TypeExpr)
  | [] => none
  | child :: rest =>
    if child.isConstituent then some (elaborate scope child) else elaborateFirst scope rest

def elaborateInner (scope : Scope) : Node → Option (Except Failure TypeExpr)
  | ⟨_, _, _, _, _, children⟩ => elaborateFirst scope children

/-- The type expression of the first constituent of the first node with a role. -/
def elaborateInRole (scope : Scope) (role : Field) : List Node → Option (Except Failure TypeExpr)
  | [] => none
  | child :: rest =>
    if child.field = some role then elaborateInner scope child else elaborateInRole scope role rest

/-- The members of a union, those of nested unions in place of the nested union. -/
def elaborateMembers (scope : Scope) : List Node → Except Failure (List TypeExpr)
  | [] => .ok []
  | child :: rest =>
    if !child.isConstituent then elaborateMembers scope rest
    else if child.kind = .unionType then do
      let inner ← elaborateNested scope child
      let members ← elaborateMembers scope rest
      return inner ++ members
    else do
      let member ← elaborate scope child
      let members ← elaborateMembers scope rest
      return member :: members

def elaborateNested (scope : Scope) : Node → Except Failure (List TypeExpr)
  | ⟨_, _, _, _, _, children⟩ => elaborateMembers scope children

def elaborateProperties (scope : Scope) : List Node → Except Failure (List (Property TypeExpr))
  | [] => .ok []
  | child :: rest =>
    if !child.isConstituent then elaborateProperties scope rest
    else do
      let property ← elaborateProperty scope child
      let properties ← elaborateProperties scope rest
      return property :: properties

/-- A property of an object type; other members are not supported. -/
def elaborateProperty (scope : Scope) : Node → Except Failure (Property TypeExpr)
  | ⟨kind, field, named, text, line, children⟩ =>
    let node : Node := ⟨kind, field, named, text, line, children⟩
    if kind ≠ .propertySignature then scope.unsupported kind.name line
    else
      match node.child? .name with
      | none => .error (.inconsistent (.propertyWithoutName scope.path line))
      | some key => do
        let (name, quoted) ← keyOf scope key line
        match elaborateInRole scope .type children with
        | none => .error (.untypedProperty name ⟨scope.path, some line⟩)
        | some result => do
          let type ← result
          return ⟨name, type, children.any fun child => child.kind = .questionMark, quoted⟩

end

end Companion.TypeExpr
