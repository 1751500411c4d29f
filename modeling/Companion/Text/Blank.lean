import Companion.Text.Basic

/-!
# Blank characters

Two classes of blank characters: the blank characters of running text, which separate words and are
trimmed, and the six ASCII ones, which alone may stand between a comment and the statement it leads.
-/

set_option autoImplicit false

namespace Companion

/-- White space of running text, line and paragraph separators and the four information separators
included; zero-width characters are not blank. -/
def isBlank (c : Char) : Bool :=
  let code := c.toNat
  (0x9 ≤ code && code ≤ 0xD) || (0x1C ≤ code && code ≤ 0x20) || code == 0x85 || code == 0xA0 ||
    code == 0x1680 || (0x2000 ≤ code && code ≤ 0x200A) || code == 0x2028 || code == 0x2029 ||
    code == 0x202F || code == 0x205F || code == 0x3000

/-- Tab, line feed, vertical tab, form feed, carriage return and space. -/
def isAsciiBlank (c : Char) : Bool :=
  let code := c.toNat
  (0x9 ≤ code && code ≤ 0xD) || code == 0x20

namespace Text

def trimStart (text : Text) : Text := text.dropWhile isBlank

def trimEnd (text : Text) : Text := (text.reverse.dropWhile isBlank).reverse

def trim (text : Text) : Text := trimEnd (trimStart text)

def wordsAfter : Text → Text → List Text
  | [], [] => []
  | c :: word, [] => [c :: word]
  | word, c :: rest =>
    if isBlank c then
      match word with
      | [] => wordsAfter [] rest
      | d :: more => (d :: more) :: wordsAfter [] rest
    else wordsAfter (word ++ [c]) rest

/-- The maximal runs of characters that are not blank. -/
def words (text : Text) : List Text := wordsAfter [] text

/-- The words separated by single spaces. -/
def collapse (text : Text) : Text := join [' '] (words text)

def squeeze (text : Text) : Text := text.filter fun c => !isBlank c

end Text

end Companion
