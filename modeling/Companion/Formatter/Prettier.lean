import Companion.Config.Settings
import Companion.Log
import Companion.Program.Call
import Companion.Text.Blank

/-!
# Formatting by a program

Generated code may be handed to a formatting program. Whether the program is there is found out by
asking for its version, once; if it is not, or if it fails on some code, the code stays as it is and
a warning is logged.
-/

set_option autoImplicit false

namespace Companion

/-- A formatting program: how it is called, whether it is there as far as that is known, and the
calls made so far, last one first. -/
structure Prettier where
  settings : FormatterSettings
  installed : Option Bool := none
  calls : List Call := []

/-- A result together with the formatter after it and what was logged. -/
structure Prettier.Reply (α : Type) where
  result : Except Failure α
  prettier : Prettier
  log : List LogEntry := []

namespace Prettier

def longestWait : Int := 2147483647

/-- A time in milliseconds, if it can be waited. -/
def wait (time : Int) : Except Failure (Option Int) :=
  if time ≤ longestWait then .ok (some time) else .error .timeTooLong

/-- The least time in seconds that is taken. Times below zero are over at once, as zero is. -/
def leastTime : Int := Nat.pow 2 970 + 1 - Nat.pow 2 1024

/-- The time limit that a value sets, in milliseconds, fractions counting as one more. -/
def limitOf : Value → Except Failure (Option Int)
  | .null => .ok none
  | .boolean value => .ok (some (if value then 1000 else 0))
  | .integer value => if value < leastTime then .error .timeTooLong else wait (value * 1000)
  | .decimal (.finite negative mantissa exponent) =>
    let scaled := Binary64.Quotient.scaled (mantissa * 1000) 2 exponent
    if negative then .ok (some (-(scaled.floor : Int)))
    else wait ((scaled.numerator + scaled.denominator - 1) / scaled.denominator : Nat)
  | .decimal (.infinite negative) => if negative then .ok (some 0) else .error .timeTooLong
  | .decimal .nan => .error .undefinedTime
  | _ => .error .badShape

/-- A value as an argument of a program, which must be a text without null characters. -/
def argument : Value → Except Failure Text
  | .string text => if text.contains '\x00' then .error .nullCharacter else .ok text
  | _ => .error .badShape

/-- Calls the program. The arguments must be ones that can be handed over; once the program has been
started, the time limit must be one that can be waited. -/
def call (respond : Responder) (prettier : Prettier) (arguments : List Value) (input : Text) :
    Except Failure Outcome × Prettier :=
  match arguments.mapM argument with
  | .error failure => (.error failure, prettier)
  | .ok arguments =>
    let limit := limitOf prettier.settings.timeout
    let calls := ⟨arguments, input, limit.toOption.join⟩ :: prettier.calls
    let after := { prettier with calls := calls }
    match respond calls, limit with
    | .refused failure, _ => (.ok (.refused failure), after)
    | _, .error failure => (.error failure, after)
    | outcome, .ok _ => (.ok outcome, after)

def missingWarning (command : List Value) : LogEntry :=
  ⟨.warning, "prettier is not available (" ++ Text.join [' '] (command.filterMap Value.text?) ++
    "); generated code is left unformatted"⟩

def timeoutWarning (command : List Value) (timeout : Value) : LogEntry :=
  ⟨.warning, "prettier failed: Command '" ++ (Value.array command).quoted ++ "' timed out after " ++
    timeout.display ++ " seconds"⟩

def statusWarning (status : Int) (errors : Text) : LogEntry :=
  ⟨.warning, "prettier exited with " ++ (toString status).toList ++ ": " ++ errors.trim⟩

/-- Remembers whether the program is there; its absence is logged. -/
def remember (prettier : Prettier) (command : List Value) (installed : Bool) : Reply Bool where
  result := .ok installed
  prettier := { prettier with installed := some installed }
  log := if installed then [] else [missingWarning command]

def command (settings : FormatterSettings) : Except Failure (List Value) :=
  match settings.command.parts? with
  | some command => .ok command
  | none => .error .badShape

def probeArguments (settings : FormatterSettings) : Except Failure (List Value) := do
  return (← command settings) ++ [.string "--version"]

def probe (respond : Responder) (prettier : Prettier) : Reply Bool :=
  match probeArguments prettier.settings with
  | .error failure => ⟨.error failure, prettier, []⟩
  | .ok arguments =>
    match call respond prettier arguments [] with
    | (.error failure, prettier) => ⟨.error failure, prettier, []⟩
    | (.ok (.refused .missing), prettier) => remember prettier arguments.dropLast false
    | (.ok (.refused failure), prettier) => ⟨.error (.system failure), prettier, []⟩
    | (.ok .timedOut, prettier) => remember prettier arguments.dropLast false
    | (.ok (.exited status output errors), prettier) =>
      match programText output, programText errors with
      | .ok _, .ok _ => remember prettier arguments.dropLast (status = 0)
      | _, _ => ⟨.error .invalidUtf8, prettier, []⟩

/-- Whether the program is there; asked only if it is not known yet. -/
def isInstalled (respond : Responder) (prettier : Prettier) : Reply Bool :=
  match prettier.installed with
  | some installed => ⟨.ok installed, prettier, []⟩
  | none => probe respond prettier

/-- The arguments that set the line width, if it counts. Only so many digits are written. -/
def widthArguments (width : Value) : Except Failure (List Value) :=
  match width with
  | .integer number =>
    if number = 0 then .ok []
    else if Nat.pow 10 4300 ≤ number.natAbs then .error .tooManyDigits
    else .ok [.string "--print-width", .string width.display]
  | _ => .ok (if width.isTruthy then [.string "--print-width", .string width.display] else [])

def formatArguments (settings : FormatterSettings) : Except Failure (List Value) := do
  let command ← command settings
  let width ← widthArguments settings.printWidth
  match settings.extraArguments.parts? with
  | some extra =>
    return command ++ [.string "--parser", settings.parser] ++ width ++ extra
  | none => throw .badShape

def formatWith (respond : Responder) (prettier : Prettier) (code : Text) : Reply Text :=
  match formatArguments prettier.settings with
  | .error failure => ⟨.error failure, prettier, []⟩
  | .ok arguments =>
    match call respond prettier arguments code with
    | (.error failure, prettier) => ⟨.error failure, prettier, []⟩
    | (.ok (.refused failure), prettier) => ⟨.error (.system failure), prettier, []⟩
    | (.ok .timedOut, prettier) =>
      ⟨.ok code, prettier, [timeoutWarning arguments prettier.settings.timeout]⟩
    | (.ok (.exited status output errors), prettier) =>
      match programText output, programText errors with
      | .ok output, .ok errors =>
        if status = 0 then ⟨.ok output, prettier, []⟩
        else ⟨.ok code, prettier, [statusWarning status errors]⟩
      | _, _ => ⟨.error .invalidUtf8, prettier, []⟩

/-- Formats code, or leaves it as it is if the program is not there. -/
def format (respond : Responder) (prettier : Prettier) (code : Text) : Reply Text :=
  match isInstalled respond prettier with
  | ⟨.error failure, prettier, log⟩ => ⟨.error failure, prettier, log⟩
  | ⟨.ok false, prettier, log⟩ => ⟨.ok code, prettier, log⟩
  | ⟨.ok true, prettier, log⟩ =>
    let reply := formatWith respond prettier code
    { reply with log := log ++ reply.log }

/-- Formats codes one after the other; one that fails does not keep the others from being formatted.
-/
def formatEach (respond : Responder) (prettier : Prettier) :
    List Text → List (Except Failure Text) × Prettier
  | [] => ([], prettier)
  | code :: rest =>
    let reply := format respond prettier code
    let (results, prettier) := formatEach respond reply.prettier rest
    (reply.result :: results, prettier)

end Prettier

end Companion
