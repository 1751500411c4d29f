import Companion.Text.Lines
import Companion.TypeExpr.Basic

/-!
# Dialects

A dialect is a vocabulary for companion values: how primitive types, literals, objects, unions and
references are written with one library, and how the companion of a type is declared. Dialects
differ in these texts only; how expressions are put together is the same for all.
-/

set_option autoImplicit false

namespace Companion

/-- A vocabulary for companion values. -/
structure Dialect where
  /-- Imports that every companion module needs. -/
  libraryImports : List Text
  /-- The expression for a primitive type. -/
  primitive : PrimitiveType → Text
  /-- The expression for a literal, given its source text. -/
  literal : LiteralForm → Text → Text
  /-- What opens and closes an object. -/
  object : Text × Text
  /-- What opens and closes an expression that also accepts a missing property. -/
  optional : Text × Text
  /-- What opens and closes a union. -/
  union : Text × Text
  /-- The name of the companion of a type. -/
  companionName : Text → Text
  /-- What turns the name of a companion into its expression. -/
  call : Text
  /-- The declaration of the companion of a type, given its laid-out expression. -/
  declaration : Text → Text → Text

namespace Dialect

/-- Validators of the `zod` library: the companion of `T` is a constant `T` with a schema. -/
def zod : Dialect where
  libraryImports := ["import \x7b z \x7d from 'zod';"]
  primitive
    | .string => "z.string()"
    | .number => "z.number()"
    | .bigint => "z.bigint()"
    | .undefined => "z.undefined()"
  literal
    | .null, _ => "z.null()"
    | _, source => "z.literal(" ++ source ++ ")"
  object := ("z.object(\x7b", "\x7d)")
  optional := ([], ".optional()")
  union := ("z.union([", "])")
  companionName name := name
  call := ".schema()"
  declaration name expression :=
    "export const " ++ name ++ " = \x7b\n  schema: () => " ++ expression ++ ".transform((x): " ++
      name ++ " => x),\n\x7d as const;"

/-- Generators of random values of the `fast-check` library: the companion of `T` is a function
`arbitraryT`. -/
def fastCheck : Dialect where
  libraryImports :=
    ["import fc from 'fast-check';", "import type \x7b Arbitrary \x7d from 'fast-check';"]
  primitive
    | .string => "fc.string()"
    | .number => "fc.double()"
    | .bigint => "fc.bigInt()"
    | .undefined => "fc.constant(undefined)"
  literal _ source := "fc.constant(" ++ source ++ ")"
  object := ("fc.record(\x7b", "\x7d)")
  optional := ("fc.option(", ", \x7b nil: undefined \x7d)")
  union := ("fc.oneof(", ")")
  companionName name := "arbitrary" ++ name
  call := "()"
  declaration name expression :=
    "export function arbitrary" ++ name ++ "(): Arbitrary<" ++ name ++ "> \x7b\n  return " ++
      expression ++ ";\n\x7d"

/-- The statement that gives a type its name in the companion module; there the type it was imported
as has a dollar sign in front. -/
def aliasStatement (name : Text) : Text := "export type " ++ name ++ " = $" ++ name ++ ";"

def companionStatement (dialect : Dialect) (name expression : Text) : Text :=
  dialect.declaration name (expression.indentLines 2)

end Dialect

end Companion
