import Companion.Text.Basic

/-!
# Lines and indentation

Two readings of a line. Source code is broken at line feeds only; laid-out statements are broken at
every line end that text knows, a carriage return with its line feed counting once. Each reading has
its own way to indent all lines but the first.
-/

set_option autoImplicit false

namespace Companion.Text

/-- Indents every line but the first by `width` spaces; lines end at line feeds and empty lines stay
empty. -/
def nest (width : Nat) (text : Text) : Text :=
  match splitOn '\n' text with
  | [] => []
  | first :: lines =>
    join ['\n'] (first :: lines.map fun line =>
      if line.isEmpty then line else List.replicate width ' ' ++ line)

/-- The single characters that end a line. -/
def isLineEnd (c : Char) : Bool :=
  let code := c.toNat
  (0xA ≤ code && code ≤ 0xD) || (0x1C ≤ code && code ≤ 0x1E) || code == 0x85 || code == 0x2028 ||
    code == 0x2029

/-- Turns every line end into one line feed, a carriage return followed by a line feed being one
line end. -/
def normalizeLineEnds : Text → Text
  | [] => []
  | '\r' :: '\n' :: rest => '\n' :: normalizeLineEnds rest
  | c :: rest => (if isLineEnd c then '\n' else c) :: normalizeLineEnds rest

/-- The lines of a text, each without its line end; nothing follows a final line end. -/
def lines : Text → List Text
  | [] => []
  | '\r' :: '\n' :: rest => [] :: lines rest
  | c :: rest =>
    if isLineEnd c then [] :: lines rest
    else
      match lines rest with
      | [] => [[c]]
      | line :: more => (c :: line) :: more

/-- Indents every line but the first by `width` spaces, whatever ends a line; the lines are then put
together with line feeds. A line feed is added to the text before it is broken, so that a line end
at its end is kept. -/
def indentLines (width : Nat) (text : Text) : Text :=
  match lines (text ++ ['\n']) with
  | [] => []
  | first :: rest =>
    join ['\n'] (first :: rest.map fun line =>
      if line.isEmpty then line else List.replicate width ' ' ++ line)

/-- Turns carriage returns, alone or before a line feed, into line feeds. -/
def universalNewlines : Text → Text
  | [] => []
  | '\r' :: '\n' :: rest => '\n' :: universalNewlines rest
  | c :: rest => (if c = '\r' then '\n' else c) :: universalNewlines rest

end Companion.Text
