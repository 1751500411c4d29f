import Companion.Generator.Dialect
import Companion.Specifier

/-!
# Companion expressions

Writes a type expression in a dialect. An object takes one line for each property, the lines of what
is nested in it being indented; all else stays on one line. With the expression comes one import for
each reference to an imported type, in the order of the references.
-/

set_option autoImplicit false

namespace Companion

structure Code where
  code : Text
  imports : List NamedImport := []
deriving DecidableEq, Repr

/-- What a companion is generated for: the path of the module and of the file that it is generated
into, seen from a working directory, how names of the module are looked up, if they can be, and how
the specifier of a module is mapped to that of its companions. -/
structure CompanionContext where
  working : Text
  sourceFile : Text
  companionPath : Text
  find : Option (Text → Except Failure (Option ImportedName)) := none
  companionSpecifier : Text → Except Failure Text

def CompanionContext.binding (context : CompanionContext) (name : Text) :
    Option ImportedName → Except Failure (Option ImportedName)
  | some origin => .ok (some origin)
  | none =>
    match context.find with
    | some find => find name
    | none => .ok none

/-- A literal as it is written in code: strings between single quotes, all else as it is. -/
def literalCode : LiteralForm → Text → Text
  | .string, raw => '\'' :: raw ++ ['\'']
  | _, raw => raw

/-- The key of a property as it is written in code. -/
def keyCode (property : Property TypeExpr) : Text :=
  if property.quoted then '\'' :: property.name ++ ['\''] else property.name

namespace Dialect

/-- An expression between an opening and a closing text. -/
def enclose (marks : Text × Text) (code : Text) : Text := marks.1 ++ code ++ marks.2

/-- The reference to a companion, with its import if its type is imported. -/
def reference (dialect : Dialect) (context : CompanionContext) (name : Text)
    (origin : Option ImportedName) : Except Failure Code := do
  let code := dialect.companionName name ++ dialect.call
  match ← context.binding name origin with
  | none => return ⟨code, []⟩
  | some binding =>
    let specifier ← context.companionSpecifier binding.specifier
    return ⟨code, [⟨dialect.companionName binding.imported,
      dialect.companionName binding.localName, specifier⟩]⟩

def propertyLine (dialect : Dialect) (property : Property TypeExpr) (code : Text) : Text :=
  let value := if property.optional then enclose dialect.optional code else code
  "  " ++ keyCode property ++ ": " ++ value.nest 2 ++ ","

/-- An object whose properties take the given lines. -/
def layOut (dialect : Dialect) (lines : List Text) : Text :=
  if lines.isEmpty then enclose dialect.object []
  else Text.join ['\n'] (dialect.object.1 :: lines ++ [dialect.object.2])

mutual

def express (dialect : Dialect) (context : CompanionContext) : TypeExpr → Except Failure Code
  | .primitive kind _ => .ok ⟨dialect.primitive kind, []⟩
  | .literal kind raw _ => .ok ⟨dialect.literal kind (literalCode kind raw), []⟩
  | .object properties _ => do
    let lines ← expressProperties dialect context properties
    return ⟨dialect.layOut (lines.map (·.code)), lines.flatMap (·.imports)⟩
  | .union members _ => do
    let parts ← expressMembers dialect context members
    return ⟨enclose dialect.union (Text.join ", ".toList (parts.map (·.code))),
      parts.flatMap (·.imports)⟩
  | .reference name origin _ => dialect.reference context name origin
  | .unclassified line =>
    .error (.unsupportedType "TypeExpression" ⟨context.sourceFile, line⟩)

def expressMembers (dialect : Dialect) (context : CompanionContext) :
    List TypeExpr → Except Failure (List Code)
  | [] => .ok []
  | member :: rest => do
    let part ← express dialect context member
    let parts ← expressMembers dialect context rest
    return part :: parts

def expressProperties (dialect : Dialect) (context : CompanionContext) :
    List (Property TypeExpr) → Except Failure (List Code)
  | [] => .ok []
  | property :: rest => do
    let line ← expressProperty dialect context property
    let lines ← expressProperties dialect context rest
    return line :: lines

def expressProperty (dialect : Dialect) (context : CompanionContext) :
    Property TypeExpr → Except Failure Code
  | ⟨name, type, optional, quoted⟩ => do
    let value ← express dialect context type
    return ⟨dialect.propertyLine ⟨name, type, optional, quoted⟩ value.code, value.imports⟩

end

end Dialect

end Companion
