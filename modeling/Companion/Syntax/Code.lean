import Companion.Syntax.Token

/-!
# Code that is passed over

Only types are read into trees of their own. Function bodies, class bodies, expressions and mark-up
are passed over: what matters is where they end and which comments they hold. For that, a slash that
opens a regular expression is told from a division, and mark-up from a comparison, by whether an
operand is expected.
-/

set_option autoImplicit false

namespace Companion.Syntax

/-- What encloses the place that is read. -/
inductive Frame where
  /-- Code in brackets; the closing bracket. -/
  | code (closer : Char)
  /-- The text of a template. -/
  | template
  /-- An opening tag of mark-up. -/
  | tag
  /-- The contents of a mark-up element. -/
  | contents
deriving DecidableEq, Repr

/-- Words behind which an operand is expected. -/
def isOperatorWord (word : Text) : Bool :=
  word.isOneOf ["return", "typeof", "instanceof", "in", "of", "new", "delete", "void", "throw",
    "case", "do", "else", "yield", "await", "default", "extends"]

def closerOf : Char → Char
  | '(' => ')'
  | '[' => ']'
  | _ => '\x7d'

/-- Whether a less-than sign opens mark-up rather than the type parameters of an arrow function. -/
def opensMarkup (cursor : Cursor) : Bool :=
  let inside := cursor.advance.skipTrivia
  if inside.peek = some '>' then true
  else if inside.word.isEmpty then false
  else
    let behind := inside.skipWord.skipTrivia
    !(behind.peek = some ',' || behind.word = "extends".toList || behind.peek = some '=')

def skipClosingTag (cursor : Cursor) : Cursor :=
  (cursor.skip (cursor.rest.takeWhile (· ≠ '>')).length).advance

/-- What one token of code does: the frame it opens, or whether it closes one, and whether an
operand is expected behind it. -/
inductive CodeStep where
  | opens (frame : Frame) (cursor : Cursor)
  | closes (closer : Char) (cursor : Cursor)
  | passes (operand : Bool) (cursor : Cursor)

/-- Passes one token of code; `markup` where mark-up may occur, `operand` where an operand is
expected. The cursor stands in front of a character that opens no trivia. -/
def codeStep (markup operand : Bool) (cursor : Cursor) : Option CodeStep :=
  match cursor.rest with
  | [] => none
  | c :: rest =>
    if c = '\'' || c = '"' then
      (stringLength cursor.rest).map fun length => .passes false (cursor.skip length)
    else if c = '\x60' then some (.opens .template cursor.advance)
    else if c = '(' || c = '[' || c = '\x7b' then
      some (.opens (.code (closerOf c)) cursor.advance)
    else if c = ')' || c = ']' || c = '\x7d' then some (.closes c cursor.advance)
    else if c = '/' && operand then
      match regexLength cursor.rest with
      | some length => some (.passes false (cursor.skip length))
      | none => some (.passes true cursor.advance)
    else if c = '<' && operand && markup && opensMarkup cursor then
      some (.opens .tag cursor.advance)
    else
      match numberLength cursor.rest with
      | some length =>
        if c = '.' && !operand then some (.passes true cursor.advance)
        else some (.passes false (cursor.skip length))
      | none =>
        let word := cursor.word
        if !word.isEmpty then some (.passes (isOperatorWord word) cursor.skipWord)
        else if (c = '+' || c = '-') && rest.head? = some c then
          some (.passes operand (cursor.skip 2))
        else if c = '!' && !operand && rest.head? ≠ some '=' then
          some (.passes false cursor.advance)
        else some (.passes true cursor.advance)

/-- Passes code until every frame is closed; the last frame opened comes first. -/
def skipFrames (markup : Bool) : Nat → List Frame → Bool → Cursor → Option Cursor
  | 0, _, _, _ => none
  | _, [], _, cursor => some cursor
  | fuel + 1, .template :: frames, _, cursor =>
    match cursor.rest with
    | [] => none
    | '\\' :: _ => skipFrames markup fuel (.template :: frames) false (cursor.skip 2)
    | '\x60' :: _ => skipFrames markup fuel frames false cursor.advance
    | '$' :: '\x7b' :: _ =>
      skipFrames markup fuel (.code '\x7d' :: .template :: frames) true (cursor.skip 2)
    | _ => skipFrames markup fuel (.template :: frames) false cursor.advance
  | fuel + 1, .contents :: frames, _, cursor =>
    match cursor.rest with
    | [] => none
    | '\x7b' :: _ =>
      skipFrames markup fuel (.code '\x7d' :: .contents :: frames) true cursor.advance
    | '<' :: '/' :: _ => skipFrames markup fuel frames false (skipClosingTag cursor)
    | '<' :: _ => skipFrames markup fuel (.tag :: .contents :: frames) false cursor.advance
    | _ => skipFrames markup fuel (.contents :: frames) false cursor.advance
  | fuel + 1, .tag :: frames, _, cursor =>
    let cursor := cursor.skipTrivia
    match cursor.rest with
    | [] => none
    | '/' :: '>' :: _ => skipFrames markup fuel frames false (cursor.skip 2)
    | '>' :: _ => skipFrames markup fuel (.contents :: frames) false cursor.advance
    | '\x7b' :: _ => skipFrames markup fuel (.code '\x7d' :: .tag :: frames) true cursor.advance
    | c :: rest =>
      if c = '\'' || c = '"' then
        skipFrames markup fuel (.tag :: frames) false
          (cursor.skip ((rest.takeWhile (· ≠ c)).length + 2))
      else if c = '<' then
        skipFrames markup fuel (.tag :: frames) false
          ((cursor.skip (rest.takeWhile (· ≠ '>')).length).advance.advance)
      else skipFrames markup fuel (.tag :: frames) false cursor.advance
  | fuel + 1, .code closer :: frames, operand, cursor =>
    match codeStep markup operand cursor.skipTrivia with
    | none => none
    | some (.opens frame cursor) =>
      skipFrames markup fuel (frame :: .code closer :: frames) true cursor
    | some (.closes found cursor) =>
      if found = closer then skipFrames markup fuel frames (closer = '\x7d') cursor else none
    | some (.passes operand cursor) =>
      skipFrames markup fuel (.code closer :: frames) operand cursor

def skipBrackets (markup : Bool) (cursor : Cursor) : Option Cursor :=
  match cursor.rest with
  | c :: _ =>
    if c = '(' || c = '[' || c = '\x7b' then
      skipFrames markup (2 * cursor.rest.length + 2) [.code (closerOf c)] true cursor.advance
    else none
  | [] => none

def skipTemplate (markup : Bool) (cursor : Cursor) : Option Cursor :=
  if cursor.peek = some '\x60' then
    skipFrames markup (2 * cursor.rest.length + 2) [.template] false cursor.advance
  else none

def skipMarkup (cursor : Cursor) : Option Cursor :=
  if cursor.peek = some '<' then
    skipFrames true (2 * cursor.rest.length + 2) [.tag] false cursor.advance
  else none

/-- Passes type parameters or arguments behind their opening sign; `depth` counts the signs open. -/
def skipAnglesWithin : Nat → Nat → Cursor → Option Cursor
  | 0, _, _ => none
  | fuel + 1, depth, cursor =>
    let cursor := cursor.skipTrivia
    match cursor.rest with
    | [] => none
    | '=' :: '>' :: _ => skipAnglesWithin fuel depth (cursor.skip 2)
    | '<' :: _ => skipAnglesWithin fuel (depth + 1) cursor.advance
    | '>' :: _ =>
      if depth = 0 then some cursor.advance else skipAnglesWithin fuel (depth - 1) cursor.advance
    | c :: _ =>
      if c = '(' || c = '[' || c = '\x7b' then
        match skipBrackets false cursor with
        | some behind => skipAnglesWithin fuel depth behind
        | none => none
      else if c = '\x60' then
        match skipTemplate false cursor with
        | some behind => skipAnglesWithin fuel depth behind
        | none => none
      else if c = '\'' || c = '"' then
        match stringLength cursor.rest with
        | some length => skipAnglesWithin fuel depth (cursor.skip length)
        | none => none
      else if c = ')' || c = ']' || c = '\x7d' || c = ';' then none
      else skipAnglesWithin fuel depth cursor.advance

/-- Passes the type parameters or arguments that open at the cursor. -/
def skipAngles (cursor : Cursor) : Option Cursor :=
  if cursor.peek = some '<' then skipAnglesWithin cursor.rest.length 0 cursor.advance else none

def skipAnglesIfAny (cursor : Cursor) : Option Cursor :=
  if cursor.skipTrivia.peek = some '<' then skipAngles cursor.skipTrivia else some cursor

end Companion.Syntax
