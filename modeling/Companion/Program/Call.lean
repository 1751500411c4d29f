import Companion.Failure
import Companion.Text.Lines
import Companion.Text.Utf8

/-!
# Program calls

Programs are known by what comes of calling them. A `Responder` answers a call knowing all calls
made before, so that it may stand for any world: programs that appear and vanish, that fail now and
then, or that always do the same.
-/

set_option autoImplicit false

namespace Companion

/-- A call of a program: its name and arguments, its input, and the time it is given, in
milliseconds. -/
structure Call where
  arguments : List Text
  input : Text := []
  limit : Option Int := none
deriving DecidableEq, Repr

inductive Outcome where
  /-- The program could not be started. -/
  | refused (failure : SystemFailure)
  /-- The program took too long. -/
  | timedOut
  /-- The program ended with a status, its output and its error output. -/
  | exited (status : Int) (output errors : Bytes)
deriving DecidableEq, Repr

/-- Answers the first of a list of calls, the others being the calls before it, last one first. -/
abbrev Responder := List Call → Outcome

/-- What a program wrote, as a text with line feeds only. -/
def programText (bytes : Bytes) : Except Failure Text :=
  match Utf8.decode bytes with
  | some text => .ok text.universalNewlines
  | none => .error .invalidUtf8

end Companion
