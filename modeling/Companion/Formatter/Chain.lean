import Companion.Formatter.Prettier

/-!
# Formatters

Generated code passes through a list of formatters in order. Besides formatting programs there are
formatters that append a line.
-/

set_option autoImplicit false

namespace Companion

inductive Formatter where
  | program (prettier : Prettier)
  /-- Appends a line. -/
  | appending (line : Text)

namespace Formatter

/-- Formats code; the formatter after it comes with the result. -/
def format (respond : Responder) (code : Text) :
    Formatter → Except Failure Text × Formatter × List LogEntry
  | program prettier =>
    let reply := prettier.format respond code
    (reply.result, program reply.prettier, reply.log)
  | appending line => (.ok (code ++ line ++ "\n"), appending line, [])

def formatAll (respond : Responder) (code : Text) :
    List Formatter → Except Failure Text × List Formatter × List LogEntry
  | [] => (.ok code, [], [])
  | formatter :: rest =>
    match formatter.format respond code with
    | (.error failure, formatter, log) => (.error failure, formatter :: rest, log)
    | (.ok code, formatter, log) =>
      let (result, rest, more) := formatAll respond code rest
      (result, formatter :: rest, log ++ more)

def formatFiles (respond : Responder) (formatters : List Formatter) :
    List (Text × Text) → Except Failure (List (Text × Text)) × List Formatter × List LogEntry
  | [] => (.ok [], formatters, [])
  | (path, text) :: rest =>
    match formatAll respond text formatters with
    | (.error failure, formatters, log) => (.error failure, formatters, log)
    | (.ok code, formatters, log) =>
      let (result, formatters, more) := formatFiles respond formatters rest
      (result.map ((path, code) :: ·), formatters, log ++ more)

end Formatter

end Companion
