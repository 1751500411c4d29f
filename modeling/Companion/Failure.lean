import Companion.Text.Quoted
import Companion.Pattern.Syntax

/-!
# Failures

Every cause for which a run, a configuration or a file operation fails, and the message of each.
-/

set_option autoImplicit false

namespace Companion

/-- A place in a source module. The path may be unknown (empty), and so may the line. -/
structure Location where
  path : Text := []
  line : Option Int := none
deriving DecidableEq, Repr

def Location.render (location : Location) : Text :=
  if location.path.isEmpty then []
  else
    match location.line with
    | none => " (" ++ location.path ++ ")"
    | some line => " (" ++ location.path ++ ":" ++ (toString line).toList ++ ")"

/-- Sources in which the generator cannot make sense of what it found. -/
inductive Inconsistency where
  /-- A type alias that has no type. -/
  | aliasWithoutValue (path : Text) (line : Int)
  /-- A property that has no name. -/
  | propertyWithoutName (path : Text) (line : Int)
  /-- An import whose module specifier is missing or is no string. -/
  | malformedImport (path : Text) (line : Int)
  /-- An import whose module specifier is not a quoted text, or is empty. -/
  | malformedImportSource (source : Text) (path : Text) (line : Int)
  /-- A generator whose output would replace the module it was made from. -/
  | overwritesSource (generator : Text) (path : Text)
  /-- A state described in words. -/
  | described (text : Text)
deriving DecidableEq, Repr

/-- `path:line`, as illegal states name a place. -/
def Inconsistency.place (path : Text) (line : Int) : Text :=
  path ++ ":" ++ (toString line).toList

def Inconsistency.message : Inconsistency → Text
  | .aliasWithoutValue path line => "Type alias without a value in " ++ place path line
  | .propertyWithoutName path line => "Property signature without a name in " ++ place path line
  | .malformedImport path line =>
    "Illegal state: Malformed import expression in " ++ place path line ++ "!"
  | .malformedImportSource source path line =>
    "Illegal state: Malformed import source " ++ source.quoted ++ " in " ++ place path line ++ "!"
  | .overwritesSource generator path =>
    "The " ++ generator ++ " generator would overwrite its source module " ++ path
  | .described text => text

inductive SystemFailure where
  | isDirectory
  | notDirectory
  | fileExists
  | missing
  | permissionDenied
  | busy
  | nameTooLong
  /-- Any other operation, by the number that the system gives as the cause. -/
  | other (number : Nat)
deriving DecidableEq, Repr

inductive Failure where
  /-- A directive payload that is no parenthesised list of names. -/
  | malformedDirective (payload : Text) (location : Location)
  /-- A directive naming a generator that is not registered. -/
  | unknownGenerator (name : Text) (location : Location)
  /-- Two generators registered under one name. -/
  | duplicateGenerator (name : Text)
  /-- A directive on a declaration that is no type alias. -/
  | unsupportedDeclaration (generator kind : Text) (location : Location)
  /-- A type outside the supported set. -/
  | unsupportedType (construct : Text) (location : Location)
  /-- A property without a type. -/
  | untypedProperty (name : Text) (location : Location)
  | inconsistent (state : Inconsistency)
  | fileNotFound (path : Text)
  /-- A failure described in words. -/
  | general (text : Text)
  /-- A configured generator that no plugin provides, by the quoted name. -/
  | unknownPlugin (name : Text)
  /-- A replacement pair with fewer than two parts. -/
  | pairTooShort (parts : Nat)
  /-- A replacement pair with more than two parts. -/
  | pairTooLong
  /-- A relative path asked for without a path. -/
  | emptyPath
  /-- A text refused by the validator of a writer. -/
  | rejected
  | invalidPattern (error : Pattern.SyntaxError)
  /-- A configuration value of the wrong shape. -/
  | badShape
  /-- A configuration file that is not JSON. -/
  | invalidJson
  /-- A file that is not UTF-8. -/
  | invalidUtf8
  | system (failure : SystemFailure)
  /-- A text for the system that holds a null character. -/
  | nullCharacter
  /-- A number of seconds that is none. -/
  | undefinedTime
  /-- A number of seconds that cannot be waited. -/
  | timeTooLong
  /-- An integer of more digits than are written. -/
  | tooManyDigits
  /-- A walk that would never end. -/
  | endlessWalk
deriving DecidableEq, Repr

namespace Failure

/-- The message of a failure; failures reported by the system or by the reader of a configuration
file carry none of their own. -/
def message : Failure → Text
  | malformedDirective payload location =>
    "Malformed ts-ppx directive " ++ payload.quoted ++ location.render
  | unknownGenerator name location =>
    "Code generator not registered: \"" ++ name ++ "\"" ++ location.render
  | duplicateGenerator name => "Code generator registered twice: \"" ++ name ++ "\""
  | unsupportedDeclaration generator kind location =>
    "Only type aliases can leverage the " ++ generator ++ " ts-ppx plugin, got " ++ kind ++
      location.render
  | unsupportedType construct location =>
    "Unhandled type construct: " ++ construct ++ location.render
  | untypedProperty name location =>
    "Types are required for properties: " ++ name.quoted ++ location.render
  | inconsistent state => state.message
  | fileNotFound path => "File not found: \"" ++ path ++ "\""
  | general text => text
  | unknownPlugin name =>
    "Unknown generator " ++ name ++ ", expected one of zod, fast-check"
  | pairTooShort parts =>
    "not enough values to unpack (expected 2, got " ++ Text.ofNat parts ++ ")"
  | pairTooLong => "too many values to unpack (expected 2)"
  | emptyPath => "no path specified"
  | rejected => "rejected"
  | invalidPattern error => error.message
  | badShape => []
  | invalidJson => []
  | invalidUtf8 => []
  | system _ => []
  | nullCharacter => "embedded null byte"
  | undefinedTime => "cannot convert float NaN to integer"
  | timeTooLong => []
  | tooManyDigits =>
    "Exceeds the limit (4300 digits) for integer string conversion; " ++
      "use sys.set_int_max_str_digits() to increase the limit".toList
  | endlessWalk => []

end Failure

end Companion
