import Companion.Syntax.TypeReader

/-!
# Expressions

Expressions are passed over. An expression ends in front of a semicolon, a closing bracket, perhaps
a comma, or at a line break that ends it; types inside it (behind `as` and `satisfies`) are read, so
that their brackets do not mislead.
-/

set_option autoImplicit false

namespace Companion.Syntax

/-- How far an expression has been read. -/
structure ExpressionState where
  /-- Whether an operand is expected. -/
  operand : Bool := true
  /-- Whether the body of a function or class is still to come. -/
  body : Bool := false

/-- Words of an expression that take an operand behind them. -/
def takesOperand (word : Text) : Bool :=
  isOperatorWord word || word.isOneOf ["extends", "async"]

def skipExpressionWord (state : ExpressionState) (cursor : Cursor) : ExpressionState × Cursor :=
  let word := cursor.word
  let behind := cursor.skipWord
  if word = "function".toList || word = "class".toList then
    ({ state with operand := false, body := true }, behind)
  else if !state.operand && (word = "as".toList || word = "satisfies".toList) then
    if behind.skipTrivia.word = "const".toList then (state, behind.skipTrivia.skipWord)
    else
      match typeAt true behind with
      | some (_, stop) => (state, stop)
      | none => ({ state with operand := true }, behind)
  else if state.operand && (word = "async".toList || word = "of".toList) then
    ({ state with operand := false }, behind)
  else if state.operand && word = "yield".toList then
    ({ state with operand := !behind.endsHere true }, behind)
  else if !state.operand && state.body && !takesOperand word then (state, behind)
  else ({ state with operand := takesOperand word || !state.operand }, behind)

/-- Passes a less-than sign where an operand is expected: mark-up, or type parameters or a type in
front of an operand. -/
def skipOperandAngle (markup : Bool) (cursor : Cursor) : Option (Bool × Cursor) :=
  if markup && opensMarkup cursor then (skipMarkup cursor).map (false, ·)
  else (skipAngles cursor).map (true, ·)

/-- Passes one token of an expression. The cursor stands in front of a character that ends nothing.
-/
def expressionStep (markup : Bool) (state : ExpressionState) (cursor : Cursor) :
    ExpressionState × Cursor :=
  match cursor.rest with
  | [] => (state, cursor)
  | c :: rest =>
    if c = '(' || c = '[' || c = '\x7b' then
      match skipBrackets markup cursor with
      | some behind =>
        let body := state.body && !(c = '\x7b' && !state.operand)
        (⟨false, body⟩, behind)
      | none => ({ state with operand := true }, cursor.advance)
    else if c = '\x60' then
      match skipTemplate markup cursor with
      | some behind => ({ state with operand := false }, behind)
      | none => (state, cursor.advance)
    else if c = '<' && state.operand then
      match skipOperandAngle markup cursor with
      | some (operand, behind) => ({ state with operand := operand }, behind)
      | none => (state, cursor.advance)
    else if c = '?' && rest.head? = some '.' && !(rest.drop 1).head?.any isAsciiDigit then
      let behind := (cursor.skip 2).skipTrivia
      let behind := if behind.peek = some '#' then behind.advance else behind
      if behind.word.isEmpty then ({ state with operand := false }, cursor.skip 2)
      else ({ state with operand := false }, behind.skipWord)
    else if c = '.' && !state.operand then
      let behind := cursor.advance.skipTrivia
      let behind := if behind.peek = some '#' then behind.advance else behind
      ({ state with operand := behind.word.isEmpty }, behind.skipWord)
    else if c = '#' then ({ state with operand := false }, cursor.advance.skipWord)
    else if (numberLength cursor.rest).isNone && !cursor.word.isEmpty then
      skipExpressionWord state cursor
    else
      match codeStep markup state.operand cursor with
      | some (.passes operand behind) => ({ state with operand := operand }, behind)
      | _ => (state, cursor.advance)

/-- Whether a number sign stands alone: it opens a private name only directly in front of one. -/
def isStray (cursor : Cursor) : Bool := cursor.peek = some '#' && cursor.advance.word.isEmpty

/-- Passes an expression; `untilComma` where a comma ends it. -/
def skipExpressionWithin (markup untilComma : Bool) : Nat → ExpressionState → Cursor → Cursor
  | 0, _, cursor => cursor
  | fuel + 1, state, cursor =>
    if !state.operand && !state.body && cursor.endsHere true then cursor
    else
      let next := cursor.skipTrivia
      match next.rest with
      | [] => cursor
      | c :: _ =>
        if c = ';' || c = ')' || c = ']' || c = '\x7d' || isStray next then cursor
        else if c = ',' then
          if untilComma then cursor
          else skipExpressionWithin markup untilComma fuel { operand := true } next.advance
        else
          let (state, behind) := expressionStep markup state next
          skipExpressionWithin markup untilComma fuel state behind

def skipExpression (markup : Bool) (cursor : Cursor) (untilComma : Bool := false) : Cursor :=
  skipExpressionWithin markup untilComma (cursor.rest.length + 1) {} cursor

def skipSemicolon (cursor : Cursor) : Cursor :=
  let next := cursor.skipTrivia
  if next.peek = some ';' then next.advance else cursor

end Companion.Syntax
