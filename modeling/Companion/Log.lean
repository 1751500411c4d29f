import Companion.Text.Basic

/-!
# Log lines

What a run reports while it works.
-/

set_option autoImplicit false

namespace Companion

inductive LogLevel where
  | debug
  | info
  | warning
deriving DecidableEq, Repr

def LogLevel.name : LogLevel → Text
  | debug => "DEBUG"
  | info => "INFO"
  | warning => "WARNING"

structure LogEntry where
  level : LogLevel
  text : Text
deriving DecidableEq, Repr

namespace LogEntry

def scanning (path : Text) : LogEntry := ⟨.debug, "Scanning " ++ path⟩

def generating (generator declaration target : Text) : LogEntry :=
  ⟨.debug, "Generating " ++ generator ++ " for " ++ declaration ++ " into " ++ target⟩

def writing (path : Text) : LogEntry := ⟨.info, "Writing " ++ path ++ "..."⟩

def render (entry : LogEntry) : Text :=
  "[ts_ppx] " ++ entry.level.name ++ " " ++ entry.text ++ "\n"

/-- Whether the line is shown; details are shown on request only. -/
def isShown (verbose : Bool) (entry : LogEntry) : Bool := verbose || entry.level ≠ .debug

def renderAll (verbose : Bool) (log : List LogEntry) : Text :=
  (log.filter (isShown verbose)).flatMap render

end LogEntry

end Companion
