import Companion.Text.Basic

/-!
# Bodies of string literals

What stands between the quotes of a string literal is kept as it was written. To put the body of a
double-quoted literal between single quotes only its unescaped single quotes have to be escaped; all
other escape sequences go on meaning the same.
-/

set_option autoImplicit false

namespace Companion.StringBody

/-- Escapes the unescaped single quotes; `escaped` tells whether the character before was an
escaping backslash. -/
def escapeFrom : Bool → Text → Text
  | _, [] => []
  | true, c :: rest => c :: escapeFrom false rest
  | false, c :: rest =>
    if c = '\\' then c :: escapeFrom true rest
    else if c = '\'' then '\\' :: c :: escapeFrom false rest
    else c :: escapeFrom false rest

/-- Escapes the unescaped single quotes of a string body. -/
def betweenSingleQuotes (body : Text) : Text := escapeFrom false body

end Companion.StringBody
