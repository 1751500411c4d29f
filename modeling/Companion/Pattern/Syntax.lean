import Companion.Text.Basic

/-!
# Patterns

Regular expressions that select source paths, and the ways in which the text of one can be wrong.
-/

set_option autoImplicit false

namespace Companion

inductive Pattern.SetItem where
  | char (c : Char)
  | range (low high : Char)
  | word (negated : Bool)
  | digit (negated : Bool)
  | blank (negated : Bool)
deriving DecidableEq, Repr

/-- A pattern. Letters and sets carry whether they ignore case, the dot whether it matches line
feeds, and anchors whether they hold at every line. -/
inductive Pattern where
  /-- Matches the empty text. -/
  | empty
  | char (ignoreCase : Bool) (c : Char)
  /-- Any character; a line feed only if `lineFeeds`. -/
  | any (lineFeeds : Bool)
  | set (ignoreCase negated : Bool) (items : List Pattern.SetItem)
  /-- The start of the text, or of a line. -/
  | start (lines : Bool)
  /-- The end of the text, also in front of one final line feed, or the end of a line. -/
  | finish (lines : Bool)
  /-- The start of the text only. -/
  | textStart
  /-- The end of the text only. -/
  | textEnd
  /-- A place between a word character and another one, or any other place. -/
  | boundary (negated : Bool)
  | sequence (first second : Pattern)
  | alternative (first second : Pattern)
  /-- Repetitions of an item, between a least and perhaps a greatest number. -/
  | repetition (item : Pattern) (least : Nat) (greatest : Option Nat)
  | group (item : Pattern)
  /-- What follows matches the item, or does not. -/
  | lookahead (negated : Bool) (item : Pattern)
deriving DecidableEq, Repr

namespace Pattern

inductive Fault where
  | unterminatedGroup
  | unbalancedParenthesis
  | unterminatedSet
  | badRange (low high : Text)
  | nothingToRepeat
  | multipleRepeat
  | reversedBounds
  | trailingBackslash
  | badEscape (escape : Text)
  | incompleteEscape (escape : Text)
  | octalTooLarge (escape : Text)
  | invalidReference (number : Nat)
  | unexpectedEnd
  | unknownExtension (extension : Text)
  | unterminatedComment
  | misplacedFlags
  | flagsNotClosed
  | unknownFlag
  | missingFlag
  | missingColon
deriving DecidableEq, Repr

def Fault.message : Fault → Text
  | unterminatedGroup => "missing ), unterminated subpattern"
  | unbalancedParenthesis => "unbalanced parenthesis"
  | unterminatedSet => "unterminated character set"
  | badRange low high => "bad character range " ++ low ++ "-" ++ high
  | nothingToRepeat => "nothing to repeat"
  | multipleRepeat => "multiple repeat"
  | reversedBounds => "min repeat greater than max repeat"
  | trailingBackslash => "bad escape (end of pattern)"
  | badEscape escape => "bad escape " ++ escape
  | incompleteEscape escape => "incomplete escape " ++ escape
  | octalTooLarge escape => "octal escape value " ++ escape ++ " outside of range 0-0o377"
  | invalidReference number => "invalid group reference " ++ Text.ofNat number
  | unexpectedEnd => "unexpected end of pattern"
  | unknownExtension extension => "unknown extension ?" ++ extension
  | unterminatedComment => "missing ), unterminated comment"
  | misplacedFlags => "global flags not at the start of the expression"
  | flagsNotClosed => "missing -, : or )"
  | unknownFlag => "unknown flag"
  | missingFlag => "missing flag"
  | missingColon => "missing :"

structure SyntaxError where
  fault : Fault
  position : Nat
  pattern : Text
deriving DecidableEq, Repr

/-- The message of a fault names its position; where the pattern has several lines, also its line
and column. -/
def SyntaxError.message (error : SyntaxError) : Text :=
  let text := error.fault.message ++ " at position " ++ Text.ofNat error.position
  if error.pattern.contains '\n' then
    let before := error.pattern.take error.position
    let column := (before.reverse.takeWhile (· ≠ '\n')).length + 1
    text ++ " (line " ++ Text.ofNat (Text.count '\n' before + 1) ++ ", column " ++
      Text.ofNat column ++ ")"
  else text

end Pattern

end Companion
