import Companion.CommandLine.Arguments
import Companion.Value.Basic

/-!
# The text of a command

The command that produced a file, as its header names it: the positional argument, then the options
in the order of their declaration. Values that count as no are left out, and existing paths are cut
down to their last name.
-/

set_option autoImplicit false

namespace Companion.CommandText

/-- The last name of a path; a path to where it starts has none. -/
def lastName (path : Text) : Text := (Disk.names path).getLast?.getD []

/-- A list of values as it is shown: between parentheses, a comma behind a single one. -/
def showList (values : List Value) : Text :=
  "(" ++ Text.join ", ".toList (values.map Value.quoted) ++
    (if values.length = 1 then [','] else []) ++ ")"

/-- Tells whether a path exists, or why that cannot be told. -/
abbrev Lookup := Text → Except Failure Bool

/-- Looks a path up on a disk. A text with a null character is no path of anything. -/
def lookupOn (disk : Disk) (path : Text) : Except Failure Bool :=
  match Disk.refusal? (Disk.tidy path), disk.find path with
  | some .nullCharacter, _ => .ok false
  | some failure, _ => .error failure
  | none, .ok _ => .ok true
  | none, .error .missing => .ok false
  | none, .error .notDirectory => .ok false
  | none, .error failure => .error (.system failure)

/-- A text as it is shown: a path that exists by its last name. -/
def showText (lookup : Lookup) (text : Text) : Except Failure Text := do
  return if ← lookup text then lastName text else text

def showValue (lookup : Lookup) : Value → Except Failure Text
  | .string text => showText lookup text
  | .array values => .ok (showList values)
  | value => .ok value.display

/-- The words for a parameter with a value that counts. -/
def words (lookup : Lookup) (parameter : Parameter) (value : Value) :
    Except Failure (List Text) :=
  match parameter.flags with
  | [] => do return [← showValue lookup value]
  | flag :: _ =>
    if parameter.isSwitch then .ok [flag]
    else
      match value with
      | .array values => do
        let shown ← values.mapM (showValue lookup)
        return shown.flatMap fun text => [flag, text]
      | value => do return [flag, ← showValue lookup value]

/-- The words for a parameter, which are none without a value that counts. -/
def wordsOf (lookup : Lookup) (values : List (Text × Value)) (parameter : Parameter) :
    Except Failure (List Text) :=
  match Value.member? values parameter.name with
  | some value => if value.isTruthy then words lookup parameter value else .ok []
  | none => .ok []

/-- The command with given values of its parameters. Paths are looked up in the order in which the
parameters are declared. -/
def render (lookup : Lookup) (values : List (Text × Value)) : Except Failure Text := do
  let parts ← Parameter.all.mapM fun parameter => do
    return (parameter, ← wordsOf lookup values parameter)
  let positional := parts.filter fun part => part.1.isPositional
  let options := parts.filter fun part => !part.1.isPositional
  return Text.join [' '] ("ts_ppx".toList :: (positional ++ options).flatMap (·.2))

def header (command : Text) : Text := "// Generated by ts_ppx v0.1.0 : " ++ command

def optional (text : Option Text) : Value := (text.map Value.string).getD .null

def valuesOf (parameters : Parameters) : List (Text × Value) :=
  [("config", optional parameters.config), ("pattern", optional parameters.pattern),
    ("generators", .array (parameters.generators.map Value.string)),
    ("tag", optional parameters.tag),
    ("prettier", (parameters.prettier.map Value.boolean).getD .null),
    ("add_generation_comment", .boolean parameters.addGenerationComment),
    ("verbose", .boolean parameters.verbose), ("source_root", optional parameters.sourceRoot)]

end Companion.CommandText
