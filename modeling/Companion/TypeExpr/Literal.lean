import Companion.Text.Blank
import Companion.Text.StringBody
import Companion.Text.Word
import Companion.TypeExpr.Basic

/-!
# Literals

How the text of a literal type is read. Numbers are recognised by their characters; blanks inside
them, which a sign may be followed by, are dropped.
-/

set_option autoImplicit false

namespace Companion.Literal

/-- Characters of a number behind its base mark. -/
def isNumberPart (c : Char) : Bool :=
  isAsciiDigit c || ('a' ≤ c && c ≤ 'f') || ('A' ≤ c && c ≤ 'F') ||
    c = '_' || c = '.' || c = '+' || c = '-'

/-- Whether a text consists of number characters, at least one, and perhaps the mark of a big
number. -/
def isDigits (text : Text) : Bool :=
  let digits := if text.getLast? = some 'n' then text.dropLast else text
  !digits.isEmpty && digits.all isNumberPart

/-- Whether a text is digits, perhaps behind a base mark. -/
def isUnsigned (text : Text) : Bool :=
  isDigits text ||
    match text with
    | '0' :: mark :: rest => mark ∈ ['x', 'X', 'o', 'O', 'b', 'B'] && isDigits rest
    | _ => false

/-- Whether a text reads as a number, perhaps with a sign and blanks behind it. -/
def isNumber (text : Text) : Bool :=
  isUnsigned text.trimStart ||
    match text with
    | sign :: rest => (sign = '+' || sign = '-') && isUnsigned (Text.trimStart rest)
    | [] => false

def ofNumber (text : Text) (line : Option Int) : TypeExpr :=
  let raw := text.squeeze
  .literal (if raw.getLast? = some 'n' then .bigint else .number) raw line

def ofString (text : Text) (line : Option Int) : TypeExpr :=
  .literal .string (StringBody.betweenSingleQuotes text.inner) line

/-- The type named by a keyword of the value language. -/
def ofKeyword? (text : Text) (line : Option Int) : Option TypeExpr :=
  if text = "undefined".toList then some (.primitive .undefined line)
  else if text = "null".toList then some (.literal .null text line)
  else if text = "true".toList || text = "false".toList then some (.literal .boolean text line)
  else none

end Companion.Literal
