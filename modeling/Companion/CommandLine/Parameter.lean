import Companion.Failure
import Companion.Generator.Plugin

/-!
# Parameters of the command

The options and the argument of the command: their names, their flags, and what they take.
-/

set_option autoImplicit false

namespace Companion

inductive Parameter where
  | config
  | pattern
  | generators
  | tag
  | prettier
  | addGenerationComment
  | verbose
  | sourceRoot
deriving DecidableEq, Repr

namespace Parameter

/-- All parameters, in the order in which they are declared. -/
def all : List Parameter :=
  [config, pattern, generators, tag, prettier, addGenerationComment, verbose, sourceRoot]

def name : Parameter → Text
  | config => "config"
  | pattern => "pattern"
  | generators => "generators"
  | tag => "tag"
  | prettier => "prettier"
  | addGenerationComment => "add_generation_comment"
  | verbose => "verbose"
  | sourceRoot => "source_root"

/-- The flags of an option, the long one first; the argument has none. -/
def flags : Parameter → List Text
  | config => ["--config", "-c"]
  | pattern => ["--pattern", "-p"]
  | generators => ["--generator", "-g"]
  | tag => ["--tag"]
  | prettier => ["--prettier"]
  | addGenerationComment => ["--add-generation-comment"]
  | verbose => ["--verbose", "-v"]
  | sourceRoot => []

def offFlags : Parameter → List Text
  | prettier => ["--no-prettier"]
  | _ => []

def isSwitch : Parameter → Bool
  | prettier | addGenerationComment | verbose => true
  | _ => false

def isPositional (parameter : Parameter) : Bool := parameter = sourceRoot

/-- How messages name a parameter. -/
def hint (parameter : Parameter) : Text :=
  if parameter.isPositional then "'[SOURCE_ROOT]'"
  else Text.join " / ".toList (parameter.flags.map Text.quoted)

end Parameter

inductive Flag where
  /-- An option that takes a value. -/
  | valued (parameter : Parameter)
  /-- A switch that is turned on or off. -/
  | switch (parameter : Parameter) (on : Bool)
  /-- The wish for help. -/
  | help
deriving DecidableEq, Repr

namespace Flag

def ofParameter (parameter : Parameter) : List (Text × Flag) :=
  if parameter.isSwitch then
    parameter.flags.map (fun flag => (flag, switch parameter true)) ++
      parameter.offFlags.map (fun flag => (flag, switch parameter false))
  else parameter.flags.map fun flag => (flag, valued parameter)

/-- All flags with what they stand for. -/
def table : List (Text × Flag) :=
  Parameter.all.flatMap ofParameter ++ [("--help".toList, help)]

def isLong (flag : Text) : Bool := Text.startsWith flag "--"

def longFlags : List Text := (table.map (·.1)).filter isLong

def ofText? (flag : Text) : Option Flag := table.lookup flag

end Flag

inductive UsageError where
  | unknownOption (name : Text) (similar : List Text)
  | missingValue (name : Text)
  | unexpectedValue (name : Text)
  | badValue (parameter : Parameter) (reason : Text)
  | extraArguments (arguments : List Text)
  | missingSourceRoot
deriving DecidableEq, Repr

namespace UsageError

def suggestion : List Text → Text
  | [] => []
  | [flag] => " Did you mean " ++ flag.quoted ++ "?"
  | flags => " (Did you mean one of: " ++ Text.join ", ".toList (flags.map Text.quoted) ++ "?)"

def message : UsageError → Text
  | unknownOption name similar => "No such option " ++ name.quoted ++ "." ++ suggestion similar
  | missingValue name => "Option " ++ name.quoted ++ " requires an argument."
  | unexpectedValue name => "Option " ++ name.quoted ++ " does not take a value."
  | badValue parameter reason => "Invalid value for " ++ parameter.hint ++ ": " ++ reason
  | extraArguments arguments =>
    "Got unexpected extra argument" ++ (if arguments.length = 1 then [] else ['s']) ++ " (" ++
      Text.join [' '] arguments ++ ")"
  | missingSourceRoot =>
    "Missing SOURCE_ROOT (pass it or set source_root in a --config file)"

def showsUsage : UsageError → Bool
  | missingValue _ => false
  | unexpectedValue _ => false
  | _ => true

def render (error : UsageError) : Text :=
  (if error.showsUsage then
    "Usage: ts_ppx [OPTIONS] [SOURCE_ROOT]\nTry 'ts_ppx --help' for help.\n\n".toList
  else []) ++ "Error: " ++ error.message ++ "\n"

end UsageError

def helpLines : List Text :=
  ["Usage: ts_ppx [OPTIONS] [SOURCE_ROOT]",
    "",
    "Options:",
    "  -c, --config FILE",
    "  -p, --pattern TEXT              Regex a source path must contain to be",
    "                                  scanned",
    "  -g, --generator [zod|fast-check]",
    "                                  Register only these generators (repeatable)",
    "  --tag TEXT                      JSDoc tag marking directives",
    "  --prettier / --no-prettier      Format generated files with prettier",
    "  --add-generation-comment        Add a comment naming this command at the top",
    "                                  of every generated file",
    "  -v, --verbose",
    "  --help                          Show this message and exit."]

def helpText : Text := helpLines.flatMap fun line => line ++ ['\n']

end Companion
