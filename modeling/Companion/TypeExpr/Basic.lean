import Companion.Text.Basic

/-!
# Type expressions

The types from which companions are made: primitive types, literal types, object types, unions and
references to other types. Each expression may know the line it was written on; the line never
matters for what the expression denotes.
-/

set_option autoImplicit false

namespace Companion

inductive PrimitiveType where
  | string
  | number
  | bigint
  | undefined
deriving DecidableEq, Repr

def PrimitiveType.keyword : PrimitiveType → Text
  | string => "string"
  | number => "number"
  | bigint => "bigint"
  | undefined => "undefined"

def PrimitiveType.ofKeyword? (text : Text) : Option PrimitiveType :=
  [string, number, bigint, undefined].find? fun kind => kind.keyword = text

inductive LiteralForm where
  | string
  | number
  | bigint
  | boolean
  | null
deriving DecidableEq, Repr

def LiteralForm.name : LiteralForm → Text
  | string => "string"
  | number => "number"
  | bigint => "bigint"
  | boolean => "boolean"
  | null => "null"

def LiteralForm.ofName? (text : Text) : Option LiteralForm :=
  [string, number, bigint, boolean, null].find? fun kind => kind.name = text

/-- A name that an import makes visible in a module: the name it has there, the name it has in the
imported module, and the specifier of that module. -/
structure ImportedName where
  localName : Text
  imported : Text
  specifier : Text
deriving DecidableEq, Repr

def ImportedName.renames (binding : ImportedName) : Bool := binding.localName ≠ binding.imported

/-- A property of an object type. The name of a quoted property is the body of a string literal. -/
structure Property (τ : Type) where
  name : Text
  type : τ
  optional : Bool := false
  quoted : Bool := false
deriving Repr

/-- A type expression. The raw text of a string literal is its body, with single quotes escaped;
that of any other literal is the literal. -/
inductive TypeExpr where
  | primitive (kind : PrimitiveType) (line : Option Int)
  | literal (kind : LiteralForm) (raw : Text) (line : Option Int)
  | object (properties : List (Property TypeExpr)) (line : Option Int)
  | union (members : List TypeExpr) (line : Option Int)
  /-- A type named elsewhere; `origin` is the import that binds the name, if one does. -/
  | reference (name : Text) (origin : Option ImportedName) (line : Option Int)
  /-- An expression that no generator can express. -/
  | unclassified (line : Option Int)
deriving Repr, Inhabited

def TypeExpr.line : TypeExpr → Option Int
  | primitive _ line => line
  | literal _ _ line => line
  | object _ line => line
  | union _ line => line
  | reference _ _ line => line
  | unclassified line => line

end Companion
