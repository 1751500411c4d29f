import Companion.Program.Script
import Companion.Program.Tools

/-!
# Running scripts

A script runs on positional arguments and an input that its commands read in turn. It ends with the
status of its last command, or where it says `exit`.
-/

set_option autoImplicit false

namespace Companion

structure Shell where
  /-- The positional arguments, the name of the script first. -/
  arguments : List Text
  /-- Input that has not been read. -/
  input : Bytes := []
  output : Bytes := []
  errors : Bytes := []
  status : Nat := 0
  /-- Milliseconds passed. -/
  elapsed : Nat := 0
  stopped : Bool := false
  /-- The signal that ended the script. -/
  signal : Option Nat := none

namespace Shell

def values (shell : Shell) (name : Text) : List Text :=
  if name = ['@'] || name = ['*'] then shell.arguments.drop 1
  else if name = ['#'] then [Text.ofNat (shell.arguments.length - 1)]
  else if name = ['?'] then [Text.ofNat shell.status]
  else if name = ['$'] then ["1"]
  else
    match Tool.number? name with
    | some index => [(shell.arguments[index]?).getD []]
    | none => [[]]

/-- Adds texts behind the fields found so far: the first one goes on the last field. -/
def addFields (fields : List Text) (texts : List Text) : List Text :=
  match texts, fields.reverse with
  | [], _ => fields
  | texts, [] => texts
  | text :: more, last :: before => before.reverse ++ (last ++ text) :: more

/-- The fields that a word stands for; `fields` are those of the pieces before. -/
def expandFrom (shell : Shell) : List Text → Word → List Text
  | fields, [] => fields
  | fields, .literal text :: rest => expandFrom shell (addFields fields [text]) rest
  | fields, .parameter name quoted :: rest =>
    let values := shell.values name
    let texts :=
      if !quoted then values.flatMap Text.words
      else if name = ['*'] then [Text.join [' '] values]
      else values
    expandFrom shell (addFields fields texts) rest

def expand (shell : Shell) (word : Word) : List Text := shell.expandFrom [] word

/-- What a command leaves, written behind what has been written before. -/
def after (shell : Shell) (result : Tool.Result) (redirections : List Redirection) : Shell :=
  let (output, errors) := redirections.foldl (fun (output, errors) kind =>
    match kind with
    | .outputToErrors => ([], errors ++ output)
    | .errorsToOutput => (output ++ errors, [])
    | .dropOutput => ([], errors)
    | .dropErrors => (output, [])
    | .emptyInput => (output, errors)) (result.output, result.errors)
  { shell with
    output := shell.output ++ output
    errors := shell.errors ++ errors
    status := result.status
    elapsed := shell.elapsed + result.elapsed }

def readsInput (name : Text) : Bool := name.isOneOf ["cat", "tr", "head", "wc"]

def missingCommand (shell : Shell) (name : Text) : Tool.Result where
  status := 127
  errors := Utf8.encode (shell.arguments.head?.getD [] ++ ": 1: " ++ name ++ ": not found\n")

def runTool (shell : Shell) (redirections : List Redirection) (name : Text)
    (arguments : List Text) : Shell :=
  let input := if redirections.contains .emptyInput then [] else shell.input
  let result :=
    if name = [':'] then some {}
    else if name = "echo".toList then some (Tool.shellEcho arguments)
    else if name = "printf".toList then some (Tool.printf arguments)
    else if name = ['['] then
      if arguments.getLast? = some [']'] then some (Tool.test arguments.dropLast)
      else some { status := 2 }
    else Tool.run? name arguments input
  let left := if readsInput name then { shell with input := [] } else shell
  left.after (result.getD (shell.missingCommand name)) redirections

def stop (shell : Shell) (status : Nat) : Shell :=
  { shell with status := status, stopped := true }

/-- The number of a signal, given by number or name. -/
def signalNumber? (signal : Text) : Option Nat :=
  if signal.isOneOf ["TERM"] then some 15
  else if signal.isOneOf ["KILL"] then some 9
  else Tool.number? signal

/-- The status that an argument of `exit` asks for; one that is no number is an error. -/
def exitStatus (argument : Text) : Nat :=
  match Tool.number? argument with
  | some status => status % 256
  | none => 2

def runCommand (shell : Shell) (redirections : List Redirection) : List Text → Shell
  | [] => { shell with status := 0 }
  | name :: arguments =>
    if name = "exit".toList then
      shell.stop ((arguments.head?.map exitStatus).getD shell.status)
    else if name = "exec".toList then
      match arguments with
      | [] => shell
      | name :: arguments =>
        let shell := shell.runTool redirections name arguments
        shell.stop shell.status
    else if name = "kill".toList then
      match arguments.head? with
      | some ('-' :: signal) =>
        { shell with signal := signalNumber? signal, stopped := true }
      | _ => { shell with signal := some 15, stopped := true }
    else shell.runTool redirections name arguments

def run (shell : Shell) : Script → Shell
  | .nothing => shell
  | .command words redirections =>
    shell.runCommand redirections (words.flatMap shell.expand)
  | .sequence first second =>
    let shell := run shell first
    if shell.stopped then shell else run shell second
  | .both first second =>
    let shell := run shell first
    if shell.stopped || shell.status ≠ 0 then shell else run shell second
  | .either first second =>
    let shell := run shell first
    if shell.stopped || shell.status = 0 then shell else run shell second
  | .pipe first second =>
    let writer := run { shell with output := [] } first
    let reader := run
      { shell with
        input := writer.output, errors := writer.errors, elapsed := writer.elapsed } second
    { reader with input := writer.input, stopped := false }
  | .negation body =>
    let shell := run shell body
    if shell.stopped then shell else { shell with status := if shell.status = 0 then 1 else 0 }
  | .choice condition body otherwise =>
    let shell := run shell condition
    if shell.stopped then shell
    else if shell.status = 0 then run { shell with status := 0 } body
    else run { shell with status := 0 } otherwise

end Shell

end Companion
