import Companion.Syntax.Cursor

/-!
# Tokens

Lengths of the literals that open a text: strings, numbers and regular expressions.
-/

set_option autoImplicit false

namespace Companion.Syntax

/-- Length of a string body up to and including the closing quote; a string ends on the line it
starts on unless the line end is escaped. An escaped carriage return or question mark takes a line
feed behind it along. -/
def stringTail (quote : Char) : Text → Option Nat
  | [] => none
  | ['\\'] => none
  | '\\' :: '\r' :: '\n' :: rest => (stringTail quote rest).map (· + 3)
  | '\\' :: '?' :: '\n' :: rest => (stringTail quote rest).map (· + 3)
  | '\\' :: _ :: rest => (stringTail quote rest).map (· + 2)
  | c :: rest =>
    if c = quote then some 1
    else if c = '\n' || c = '\r' then none
    else (stringTail quote rest).map (· + 1)

/-- Length of the string literal that opens a text. -/
def stringLength : Text → Option Nat
  | '\'' :: rest => (stringTail '\'' rest).map (· + 1)
  | '"' :: rest => (stringTail '"' rest).map (· + 1)
  | _ => none

/-- Digits with separators. -/
def isDigitPart (c : Char) : Bool := isAsciiDigit c || c = '_'

def fractionLength : Text → Nat
  | '.' :: rest => 1 + (rest.takeWhile isDigitPart).length
  | _ => 0

def exponentLength : Text → Nat
  | c :: rest =>
    if c = 'e' || c = 'E' then
      let (sign, digits) :=
        match rest with
        | '+' :: digits => (1, digits)
        | '-' :: digits => (1, digits)
        | digits => (0, digits)
      let length := (digits.takeWhile isDigitPart).length
      if length = 0 then 0 else 1 + sign + length
    else 0
  | [] => 0

/-- Length of a decimal number: digits, fraction, exponent, or digits and the mark of a big one. -/
def decimalLength (text : Text) : Nat :=
  let whole := (text.takeWhile isDigitPart).length
  let behind := text.drop whole
  if behind.head? = some 'n' then whole + 1
  else
    let fraction := fractionLength behind
    whole + fraction + exponentLength (behind.drop fraction)

/-- Length of the number that opens a text, if a digit does, or a point and a digit. -/
def numberLength (text : Text) : Option Nat :=
  match text with
  | '0' :: c :: rest =>
    if c = 'x' || c = 'X' || c = 'o' || c = 'O' || c = 'b' || c = 'B' then
      some (2 + (rest.takeWhile fun d => isAsciiDigit d || isAsciiLetter d || d = '_').length)
    else some (decimalLength text)
  | '.' :: c :: _ => if isAsciiDigit c then some (decimalLength text) else none
  | c :: _ => if isAsciiDigit c then some (decimalLength text) else none
  | [] => none

/-- Length of a regular expression's body up to and including the closing slash; `inClass` inside
brackets, where a slash is plain. -/
def regexTail : Bool → Text → Option Nat
  | _, [] => none
  | _, ['\\'] => none
  | inClass, '\\' :: _ :: rest => (regexTail inClass rest).map (· + 2)
  | inClass, c :: rest =>
    if c = '\n' then none
    else if c = '[' then (regexTail true rest).map (· + 1)
    else if c = ']' then (regexTail false rest).map (· + 1)
    else if c = '/' && !inClass then some 1
    else (regexTail inClass rest).map (· + 1)

/-- Length of the regular expression that opens a text, flags included. -/
def regexLength : Text → Option Nat
  | '/' :: rest =>
    (regexTail false rest).map fun length =>
      1 + length + ((rest.drop length).takeWhile isAsciiLetter).length
  | _ => none

end Companion.Syntax
