import Companion.Program.Call
import Companion.Program.Shell

/-!
# Stand-in programs

A world in which the only programs are small tools and the shell. It answers every call by itself,
whatever was called before.
-/

set_option autoImplicit false

namespace Companion.StandIn

def programDirectories : List Text := ["/usr/bin/", "/bin/"]

def programName (path : Text) : Text :=
  match programDirectories.find? fun directory => directory.isPrefixOf path with
  | some directory => path.drop directory.length
  | none => path

/-- Whether a path is one of the directories above programs; the empty one is. -/
def isDirectoryPath (path : Text) : Bool :=
  path.isOneOf ["", "/", "/usr", "/usr/bin", "/bin", "/usr/", "/usr/bin/", "/bin/", ".", "./", "..",
    "../"]

/-- The end of a script. -/
def ofShell (shell : Shell) : Tool.Result × Option Nat :=
  (⟨shell.status, shell.output, shell.errors, shell.elapsed⟩, shell.signal)

def runShell (arguments : List Text) (input : Bytes) : Tool.Result × Option Nat :=
  match arguments with
  | ['-', 'c'] :: text :: rest =>
    match Script.parse text with
    | some script =>
      ofShell (Shell.run
        { arguments := if rest.isEmpty then ["sh"] else rest, input := input } script)
    | none => ({ status := 2 }, none)
  | [] =>
    match (Utf8.decode input).bind Script.parse with
    | some script => ofShell (Shell.run { arguments := ["sh"] } script)
    | none => ({ status := 2 }, none)
  | _ => ({ status := 2 }, none)

def run? (name : Text) (arguments : List Text) (input : Bytes) :
    Option (Tool.Result × Option Nat) :=
  if name = "sh".toList || name = "dash".toList then some (runShell arguments input)
  else (Tool.run? name arguments input).map fun result => (result, none)

/-- What comes of a call. A program is stopped when its time has passed, one without time at once.
-/
def answer (call : Call) : Outcome :=
  match call.arguments with
  | [] => .refused .missing
  | path :: arguments =>
    if isDirectoryPath path then .refused .permissionDenied
    else
      match run? (programName path) arguments (Utf8.encode call.input) with
      | none => .refused .missing
      | some (result, signal) =>
        if call.limit.any fun limit => limit ≤ (result.elapsed : Int) then .timedOut
        else
          match signal with
          | some number => .exited (-(number : Int)) result.output result.errors
          | none => .exited result.status result.output result.errors

def respond : Responder
  | [] => .refused .missing
  | call :: _ => answer call

end Companion.StandIn
