import Companion.Text.Blank
import Companion.Text.Word
import Companion.Syntax.Node

/-!
# Cursors

A cursor is a place in a source text. It counts characters and lines, and it carries the comments
that have been passed, so that a reader that goes back to an earlier cursor also forgets the
comments it met on the way.

Statements and members may end at a line break without a semicolon. Whether they do is decided by
what comes behind the break: see `Cursor.endsHere`.
-/

set_option autoImplicit false

namespace Companion.Syntax

/-- A comment: the characters it covers, its text and the line it starts on. -/
structure Comment where
  start : Nat
  stop : Nat
  line : Nat
  text : Text
deriving DecidableEq, Repr

structure Cursor where
  /-- What has not been read. -/
  rest : Text
  /-- Number of characters read. -/
  offset : Nat := 0
  /-- The line, the first line being 1. -/
  line : Nat := 1
  /-- The comments passed, last one first. -/
  comments : List Comment := []
deriving Repr

/-- White space between tokens, zero-width characters included. -/
def isSpace (c : Char) : Bool :=
  let code := c.toNat
  (0x9 ≤ code && code ≤ 0xD) || code == 0x20 || code == 0xA0 || code == 0x1680 ||
    (0x2000 ≤ code && code ≤ 0x200B) || code == 0x2028 || code == 0x2029 || code == 0x202F ||
    code == 0x205F || code == 0x2060 || code == 0x3000 || code == 0xFEFF

/-- White space that is looked through when a line break may end a statement. -/
def isBreakable (c : Char) : Bool :=
  let code := c.toNat
  (0x9 ≤ code && code ≤ 0xD) || code == 0x20 || code == 0x1680 ||
    (0x2000 ≤ code && code ≤ 0x2006) || (0x2008 ≤ code && code ≤ 0x200A) || code == 0x2028 ||
    code == 0x2029 || code == 0x205F || code == 0x3000

/-- ASCII punctuation, which no identifier holds; the underscore and the dollar sign are none. -/
def isPunctuation (c : Char) : Bool :=
  let code := c.toNat
  (0x21 ≤ code && code ≤ 0x2F && code != 0x24) || (0x3A ≤ code && code ≤ 0x40) ||
    (0x5B ≤ code && code ≤ 0x5E) || code == 0x60 || (0x7B ≤ code && code ≤ 0x7E)

/-- Characters that go on an identifier: neither controls, nor white space, nor punctuation. -/
def isIdentifierPart (c : Char) : Bool :=
  0x20 < c.toNat && !isSpace c && !isPunctuation c

def isIdentifierStart (c : Char) : Bool := isIdentifierPart c && !isAsciiDigit c

/-- Line ends of a line comment. -/
def endsLineComment (c : Char) : Bool :=
  c = '\n' || c = '\r' || c.toNat = 0x2028 || c.toNat = 0x2029

/-- Length of a text up to and including `*/`, if that occurs. -/
def blockCommentLength : Text → Option Nat
  | [] => none
  | '*' :: '/' :: _ => some 2
  | _ :: rest => (blockCommentLength rest).map (· + 1)

/-- Length of the comment that opens a text, if one does. -/
def commentLength : Text → Option Nat
  | '/' :: '/' :: rest => some (2 + (rest.takeWhile fun c => !endsLineComment c).length)
  | '/' :: '*' :: rest => (blockCommentLength rest).map (· + 2)
  | _ => none

namespace Cursor

def advance (cursor : Cursor) : Cursor :=
  match cursor.rest with
  | [] => cursor
  | c :: rest =>
    { cursor with
      rest := rest
      offset := cursor.offset + 1
      line := if c = '\n' then cursor.line + 1 else cursor.line }

def skip (cursor : Cursor) (length : Nat) : Cursor :=
  let passed := cursor.rest.take length
  { cursor with
    rest := cursor.rest.drop length
    offset := cursor.offset + passed.length
    line := cursor.line + Text.count '\n' passed }

def textTo (start stop : Cursor) : Text := start.rest.take (stop.offset - start.offset)

/-- Passes a comment of known length and remembers it. -/
def passComment (cursor : Cursor) (length : Nat) : Cursor :=
  let behind := cursor.skip length
  let comment : Comment := ⟨cursor.offset, behind.offset, cursor.line, cursor.textTo behind⟩
  { behind with comments := comment :: cursor.comments }

/-- Passes white space and comments; `fuel` bounds their number. -/
def skipTriviaWithin : Nat → Cursor → Cursor
  | 0, cursor => cursor
  | fuel + 1, cursor =>
    match cursor.rest with
    | [] => cursor
    | c :: _ =>
      if isSpace c then skipTriviaWithin fuel cursor.advance
      else
        match commentLength cursor.rest with
        | some length => skipTriviaWithin fuel (cursor.passComment length)
        | none => cursor

def skipTrivia (cursor : Cursor) : Cursor := skipTriviaWithin cursor.rest.length cursor

def at? (cursor : Cursor) (text : Text) : Bool := text.isPrefixOf cursor.rest

def peek (cursor : Cursor) : Option Char := cursor.rest.head?

/-- Length of the `\u` escape that opens a text, which identifiers may hold. -/
def unicodeEscapeLength : Text → Option Nat
  | '\\' :: 'u' :: '\x7b' :: rest =>
    some (4 + (rest.takeWhile (· ≠ '\x7d')).length)
  | '\\' :: 'u' :: _ :: _ :: _ :: _ :: _ => some 6
  | _ => none

/-- Length of the identifier characters that open a text. -/
def identifierTail : Nat → Text → Nat
  | 0, _ => 0
  | _, [] => 0
  | fuel + 1, c :: rest =>
    if isIdentifierPart c then 1 + identifierTail fuel rest
    else
      match unicodeEscapeLength (c :: rest) with
      | some length => length + identifierTail fuel ((c :: rest).drop length)
      | none => 0

/-- Length of the identifier that opens a text; zero if none does. -/
def identifierLength (text : Text) : Nat :=
  match text with
  | [] => 0
  | c :: _ =>
    if isIdentifierStart c || (unicodeEscapeLength text).isSome then
      identifierTail text.length text
    else 0

/-- The identifier or keyword in front of the cursor, empty if there is none. -/
def word (cursor : Cursor) : Text := cursor.rest.take (identifierLength cursor.rest)

def skipWord (cursor : Cursor) : Cursor := cursor.skip (identifierLength cursor.rest)

/-- What remains behind white space that a line break may hide and behind comments. -/
def behindBreak : Nat → Text → Text
  | 0, text => text
  | _, [] => []
  | fuel + 1, c :: rest =>
    if isBreakable c then behindBreak fuel rest
    else
      match commentLength (c :: rest) with
      | some length => behindBreak fuel ((c :: rest).drop length)
      | none => c :: rest

def startsWithLetter (text : Text) : Bool :=
  text.head?.any fun c => isWordChar c && !isAsciiDigit c && c ≠ '_'

/-- Whether a line break ends a statement although it might go on: it does not in front of a
character that can only go on what was read. In an expression a parenthesis or a bracket goes on,
too, and behind the head of a function an opening brace. -/
def breakEnds (inExpression afterFunctionHead : Bool) (text : Text) : Bool :=
  match text with
  | [] => true
  | c :: rest =>
    if c ∈ ['\x60', ',', '.', ';', '*', '%', '>', '<', '=', '?', '^', '|', '&', '/', ':'] then false
    else if c = '\x7b' then !afterFunctionHead
    else if c = '(' || c = '[' then !inExpression
    else if c = '+' then rest.head? = some '+'
    else if c = '-' then rest.head? = some '-'
    else if c = '!' then rest.head? ≠ some '='
    else if c = 'i' then
      match rest with
      | 'n' :: rest =>
        if !startsWithLetter rest then false
        else rest.take 8 ≠ "stanceof".toList || startsWithLetter (rest.drop 8)
      | _ => true
    else true

/-- Whether a statement or member that is complete at the cursor ends there without a semicolon: at
the end of the text, in front of a closing brace (unless that ends a pattern with a type), or at a
line break in front of something that does not go on what was read. -/
def endsWithin (inExpression afterFunctionHead : Bool) : Nat → Text → Bool
  | 0, _ => true
  | _, [] => true
  | fuel + 1, c :: rest =>
    if c = '\x7d' then
      if (rest.dropWhile isBreakable).head? = some ':' then inExpression else true
    else if c = '\n' then
      breakEnds inExpression afterFunctionHead (behindBreak rest.length rest)
    else if isSpace c then endsWithin inExpression afterFunctionHead fuel rest
    else
      match commentLength (c :: rest) with
      | some length => endsWithin inExpression afterFunctionHead fuel ((c :: rest).drop length)
      | none => false

/-- See `endsWithin`. -/
def endsHere (cursor : Cursor) (inExpression : Bool := false) (afterFunctionHead : Bool := false) :
    Bool :=
  endsWithin inExpression afterFunctionHead (cursor.rest.length + 1) cursor.rest

def node (start stop : Cursor) (kind : Kind) (children : List Node := []) : Node where
  kind := kind
  text := start.textTo stop
  line := start.line
  children := children

end Cursor

end Companion.Syntax
