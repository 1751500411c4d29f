import Companion.Syntax.Code

/-!
# Reading types

Types are read into nodes of the grammar's kinds: unions and intersections are binary and lean to
the left, a leading bar or ampersand being the start of the first node. Parts of types that are
supported nowhere (parameter lists, tuples, mapped keys) are passed over, so only their extent is
known.

A type that stands at the end of a statement or member is `openEnded`: a line break may end it.
-/

set_option autoImplicit false

namespace Companion.Syntax

def isPredefinedTypeWord (word : Text) : Bool :=
  word.isOneOf ["any", "number", "boolean", "string", "symbol", "void", "unknown", "never",
    "object"]

def isLiteralTypeWord (word : Text) : Bool :=
  word.isOneOf ["undefined", "null", "true", "false"]

def isMemberModifier (word : Text) : Bool :=
  word.isOneOf ["public", "private", "protected", "static", "override", "readonly", "async", "get",
    "set"]

def startsMemberName (cursor : Cursor) : Bool :=
  match cursor.rest with
  | [] => false
  | c :: _ =>
    c = '\'' || c = '"' || c = '[' || c = '#' || c = '*' || isAsciiDigit c || !cursor.word.isEmpty

/-- Passes the modifiers of a member. A modifier word that is not followed by a name, or that ends
at a line break, is the name itself. -/
def skipModifiers : Nat → Cursor → Cursor
  | 0, cursor => cursor
  | fuel + 1, cursor =>
    if cursor.peek = some '*' then cursor.advance.skipTrivia
    else if isMemberModifier cursor.word then
      let behind := cursor.skipWord
      if behind.endsHere || !startsMemberName behind.skipTrivia then cursor
      else skipModifiers fuel behind.skipTrivia
    else cursor

/-- Whether a bracket in front of the cursor opens an index signature and not a computed name. -/
def opensIndexSignature (cursor : Cursor) : Bool :=
  let inside := cursor.advance.skipTrivia
  let behind := inside.skipWord.skipTrivia
  !inside.word.isEmpty && (behind.peek = some ':' || behind.word = "in".toList)

/-- Passes the mark of an optional mapped member, which may be added or removed. -/
def skipMappedMark (cursor : Cursor) : Cursor :=
  let mark := cursor.skipTrivia
  match mark.rest with
  | '?' :: _ => mark.advance
  | '-' :: '?' :: _ => mark.skip 2
  | '+' :: '?' :: _ => mark.skip 2
  | _ => cursor

/-- The name of a member, if it is no bracketed one. -/
def memberName (cursor : Cursor) : Option (Node × Cursor) :=
  match cursor.rest with
  | [] => none
  | c :: _ =>
    if c = '\'' || c = '"' then
      (stringLength cursor.rest).map fun length =>
        (cursor.node (cursor.skip length) .string, cursor.skip length)
    else if c = '#' then
      let behind := cursor.advance.skipWord
      some (cursor.node behind (.other "private_property_identifier"), behind)
    else
      match numberLength cursor.rest with
      | some length => some (cursor.node (cursor.skip length) .number, cursor.skip length)
      | none =>
        if cursor.word.isEmpty then none
        else some (cursor.node cursor.skipWord .propertyIdentifier, cursor.skipWord)

/-- Passes `.name` parts; `fuel` bounds their number. -/
def skipPath : Nat → Cursor → Cursor
  | 0, cursor => cursor
  | fuel + 1, cursor =>
    let dot := cursor.skipTrivia
    let name :=
      match dot.rest with
      | '.' :: _ => some dot.advance.skipTrivia
      | '?' :: '.' :: _ => some (dot.skip 2).skipTrivia
      | _ => none
    match name with
    | none => cursor
    | some name =>
      if name.peek = some '#' then skipPath fuel name.advance.skipWord
      else if name.word.isEmpty then cursor
      else skipPath fuel name.skipWord

def literalTypeNode (start stop : Cursor) (kind : Kind) : Node :=
  start.node stop .literalType [start.node stop kind]

/-- Passes the parameters of a signature, with type parameters before them. -/
def skipParameters (cursor : Cursor) : Option Cursor :=
  match skipAnglesIfAny cursor with
  | none => none
  | some behind => skipBrackets false behind.skipTrivia

/-- The cursor behind a text that must be next. -/
def expect (text : Text) (cursor : Cursor) : Option Cursor :=
  let next := cursor.skipTrivia
  if next.at? text then some (next.skip text.length) else none

mutual

def readType : Nat → Bool → Cursor → Option (Node × Cursor)
  | 0, _, _ => none
  | fuel + 1, openEnded, cursor => do
    let start := cursor.skipTrivia
    let (left, behind) ← readUnion fuel openEnded start
    let next := behind.skipTrivia
    if next.word = "extends".toList && !(openEnded && behind.endsHere) then
      let (_, right) ← readUnion fuel false next.skipWord
      let question ← expect "?" right
      let (_, consequence) ← readType fuel false question
      let colon ← expect ":" consequence
      let (_, alternative) ← readType fuel openEnded colon
      return (start.node alternative (.other "conditional_type"), alternative)
    else return (left, behind)

/-- A union, or a type that is none. -/
def readUnion : Nat → Bool → Cursor → Option (Node × Cursor)
  | 0, _, _ => none
  | fuel + 1, openEnded, cursor => do
    let start := cursor.skipTrivia
    if start.peek = some '|' then
      let (member, behind) ← readIntersection fuel openEnded start.advance
      readUnionTail fuel openEnded start (start.node behind .unionType [member]) behind
    else
      let (member, behind) ← readIntersection fuel openEnded start
      readUnionTail fuel openEnded start member behind

def readUnionTail : Nat → Bool → Cursor → Node → Cursor → Option (Node × Cursor)
  | 0, _, _, _, _ => none
  | fuel + 1, openEnded, start, left, cursor =>
    let bar := cursor.skipTrivia
    if bar.peek = some '|' && !bar.at? "|\x7d" then do
      let (right, behind) ← readIntersection fuel openEnded bar.advance
      readUnionTail fuel openEnded start (start.node behind .unionType [left, right]) behind
    else some (left, cursor)

/-- An intersection, or a type that is none. -/
def readIntersection : Nat → Bool → Cursor → Option (Node × Cursor)
  | 0, _, _ => none
  | fuel + 1, openEnded, cursor => do
    let start := cursor.skipTrivia
    if start.peek = some '&' then
      let (member, behind) ← readOperand fuel openEnded start.advance
      let node := start.node behind (.other "intersection_type") [member]
      readIntersectionTail fuel openEnded start node behind
    else
      let (member, behind) ← readOperand fuel openEnded start
      readIntersectionTail fuel openEnded start member behind

def readIntersectionTail : Nat → Bool → Cursor → Node → Cursor → Option (Node × Cursor)
  | 0, _, _, _, _ => none
  | fuel + 1, openEnded, start, left, cursor =>
    let sign := cursor.skipTrivia
    if sign.peek = some '&' then do
      let (right, behind) ← readOperand fuel openEnded sign.advance
      let node := start.node behind (.other "intersection_type") [left, right]
      readIntersectionTail fuel openEnded start node behind
    else some (left, cursor)

/-- A type without infix signs, with the brackets behind it. -/
def readOperand : Nat → Bool → Cursor → Option (Node × Cursor)
  | 0, _, _ => none
  | fuel + 1, openEnded, cursor => do
    let start := cursor.skipTrivia
    match start.rest with
    | [] => none
    | '(' :: _ =>
      let parameters ← skipBrackets false start
      match expect "=>" parameters with
      | some arrow =>
        let (_, behind) ← readReturn fuel openEnded arrow
        return (start.node behind (.other "function_type"), behind)
      | none =>
        let (inner, behind) ← readType fuel false start.advance
        let closed ← expect ")" behind
        readBrackets fuel openEnded start (start.node closed .parenthesizedType [inner]) closed
    | '<' :: _ =>
      let parameters ← skipParameters start
      let arrow ← expect "=>" parameters
      let (_, behind) ← readReturn fuel openEnded arrow
      return (start.node behind (.other "function_type"), behind)
    | '\x7b' :: '|' :: _ =>
      let (members, behind) ← readMembers fuel "|\x7d" [] (start.skip 2)
      readBrackets fuel openEnded start (start.node behind .objectType members) behind
    | '\x7b' :: _ =>
      let inside := start.advance.skipTrivia
      let inside :=
        if inside.peek = some ',' || inside.peek = some ';' then inside.advance else start.advance
      let (members, behind) ← readMembers fuel "\x7d" [] inside
      readBrackets fuel openEnded start (start.node behind .objectType members) behind
    | '[' :: _ =>
      let behind ← skipBrackets false start
      readBrackets fuel openEnded start (start.node behind (.other "tuple_type")) behind
    | '\x60' :: _ =>
      let behind ← skipTemplate false start
      readBrackets fuel openEnded start (start.node behind (.other "template_literal_type")) behind
    | '?' :: _ =>
      let (_, behind) ← readOperand fuel openEnded start.advance
      return (start.node behind (.other "flow_maybe_type"), behind)
    | '*' :: _ => return (start.node start.advance (.other "existential_type"), start.advance)
    | c :: _ =>
      if c = '\'' || c = '"' then
        let length ← stringLength start.rest
        let behind := start.skip length
        readBrackets fuel openEnded start (literalTypeNode start behind .string) behind
      else if c = '-' || c = '+' then
        let digits := start.advance.skipTrivia
        let length ← numberLength digits.rest
        let behind := digits.skip length
        readBrackets fuel openEnded start (literalTypeNode start behind .unaryExpression) behind
      else
        match numberLength start.rest with
        | some length =>
          let behind := start.skip length
          readBrackets fuel openEnded start (literalTypeNode start behind .number) behind
        | none => readWordType fuel openEnded start

def readWordType : Nat → Bool → Cursor → Option (Node × Cursor)
  | 0, _, _ => none
  | fuel + 1, openEnded, start =>
    let word := start.word
    let behind := start.skipWord
    let next := behind.skipTrivia
    if word.isEmpty then none
    else if word = "new".toList ||
        (word = "abstract".toList && next.word = "new".toList) then do
      let parameters ← skipParameters (if word = "new".toList then behind else next.skipWord)
      let arrow ← expect "=>" parameters
      let (_, behind) ← readReturn fuel openEnded arrow
      return (start.node behind (.other "constructor_type"), behind)
    else if word = "keyof".toList || word = "readonly".toList then
      let kind := if word = "keyof".toList then "index_type_query" else "readonly_type"
      match readOperand fuel openEnded behind with
      | some (_, behind) => some (start.node behind (.other kind), behind)
      | none => readBrackets fuel openEnded start (start.node behind .typeIdentifier) behind
    else if word = "unique".toList && next.word = "symbol".toList then
      readBrackets fuel openEnded start (start.node next.skipWord .predefinedType) next.skipWord
    else if word = "infer".toList && !next.word.isEmpty then
      let name := next.skipWord
      let bound := name.skipTrivia
      match
        (if bound.word = "extends".toList then readUnion fuel false bound.skipWord else none) with
      | some (_, behind) => some (start.node behind (.other "infer_type"), behind)
      | none => some (start.node name (.other "infer_type"), name)
    else if word = "typeof".toList then do
      let name ←
        if next.word = "import".toList then skipBrackets false next.skipWord.skipTrivia
        else if next.word.isEmpty then none
        else some next.skipWord
      let path := skipPath name.rest.length name
      let behind ← if path.skipTrivia.peek = some '<' then skipAnglesIfAny path else some path
      readBrackets fuel openEnded start (start.node behind (.other "type_query")) behind
    else if word = "import".toList && next.peek = some '(' then do
      let call ← skipBrackets false next
      let path := skipPath call.rest.length call
      let kind := if path.offset = call.offset then "call_expression" else "member_expression"
      let node := start.node path (.other kind)
      if path.skipTrivia.peek = some '<' then readTypeArguments fuel openEnded start node path
      else readBrackets fuel openEnded start node path
    else if word = "this".toList then
      readBrackets fuel openEnded start (start.node behind (.other "this_type")) behind
    else if isLiteralTypeWord word then
      readBrackets fuel openEnded start (literalTypeNode start behind (.other word)) behind
    else if isPredefinedTypeWord word then
      readBrackets fuel openEnded start (start.node behind .predefinedType) behind
    else
      let path := skipPath behind.rest.length behind
      let kind :=
        if path.offset = behind.offset then .typeIdentifier else .other "nested_type_identifier"
      let node := start.node path kind
      if path.skipTrivia.peek = some '<' then readTypeArguments fuel openEnded start node path
      else readBrackets fuel openEnded start node path

def readTypeArguments : Nat → Bool → Cursor → Node → Cursor → Option (Node × Cursor)
  | 0, _, _, _, _ => none
  | fuel + 1, openEnded, start, name, cursor => do
    let angle := cursor.skipTrivia
    let (arguments, behind) ← readTypeList fuel [] angle.advance
    let list := (angle.node behind .typeArguments arguments).withField .typeArguments
    let node := start.node behind .genericType [name.withField .name, list]
    readBrackets fuel openEnded start node behind

def readTypeList : Nat → List Node → Cursor → Option (List Node × Cursor)
  | 0, _, _ => none
  | fuel + 1, types, cursor =>
    let next := cursor.skipTrivia
    if next.peek = some '>' then some (types, next.advance)
    else do
      let (type, behind) ← readType fuel false next
      let separator := behind.skipTrivia
      if separator.peek = some ',' then readTypeList fuel (types ++ [type]) separator.advance
      else if separator.peek = some '>' then return (types ++ [type], separator.advance)
      else none

/-- The brackets behind a type: arrays and look-ups. A bracket on a new line does not belong to an
open type. -/
def readBrackets : Nat → Bool → Cursor → Node → Cursor → Option (Node × Cursor)
  | 0, _, _, _, _ => none
  | fuel + 1, openEnded, start, node, cursor =>
    let bracket := cursor.skipTrivia
    if bracket.peek = some '[' && !(openEnded && cursor.endsHere) then do
      let behind ← skipBrackets false bracket
      let kind :=
        if bracket.advance.skipTrivia.peek = some ']' then "array_type" else "lookup_type"
      readBrackets fuel openEnded start (start.node behind (.other kind) [node]) behind
    else some (node, cursor)

/-- A return type, which may be an assertion or a predicate on a parameter. -/
def readReturn : Nat → Bool → Cursor → Option (Node × Cursor)
  | 0, _, _ => none
  | fuel + 1, openEnded, cursor => do
    let start := cursor.skipTrivia
    let subject := start.skipWord.skipTrivia
    let asserts := start.word = "asserts".toList && !subject.word.isEmpty &&
      !(openEnded && start.skipWord.endsHere)
    let (type, behind) ← readType fuel openEnded (if asserts then subject else start)
    let next := behind.skipTrivia
    if next.word = "is".toList && !(openEnded && behind.endsHere) then
      let (_, behind) ← readType fuel openEnded next.skipWord
      return (start.node behind (.other "type_predicate"), behind)
    else return (type, behind)

def readMembers : Nat → Text → List Node → Cursor → Option (List Node × Cursor)
  | 0, _, _, _ => none
  | fuel + 1, closing, members, cursor =>
    let start := cursor.skipTrivia
    if start.at? closing then some (members, start.skip closing.length)
    else do
      let (member, behind) ← readMember fuel start
      let next := behind.skipTrivia
      if next.peek = some ',' || next.peek = some ';' then
        readMembers fuel closing (members ++ [member]) next.advance
      else if next.at? closing || behind.endsHere then
        readMembers fuel closing (members ++ [member]) behind
      else none

/-- A member of an object type; the cursor stands in front of it. -/
def readMember : Nat → Cursor → Option (Node × Cursor)
  | 0, _ => none
  | fuel + 1, start =>
    let word := start.word
    let next := start.skipWord.skipTrivia
    let isHead : Cursor → Bool := fun cursor => cursor.peek = some '(' || cursor.peek = some '<'
    if isHead start then do
      let behind ← readSignature fuel start
      return (start.node behind (.other "call_signature"), behind)
    else if word = "new".toList && isHead next then do
      let behind ← readSignature fuel next
      return (start.node behind (.other "construct_signature"), behind)
    else if word = "abstract".toList && next.word = "new".toList then do
      let behind ← readSignature fuel next.skipWord
      return (start.node behind (.other "construct_signature"), behind)
    else
      let signed :=
        if start.peek = some '-' || start.peek = some '+' then start.advance.skipTrivia else start
      let name := skipModifiers signed.rest.length signed
      if name.peek = some '[' then do
        let bracketed ← skipBrackets false name
        if opensIndexSignature name then
          let mark := skipMappedMark bracketed
          match expect ":" mark with
          | none => return (start.node mark (.other "index_signature"), mark)
          | some colon =>
            let (_, behind) ← readReturn fuel true colon
            return (start.node behind (.other "index_signature"), behind)
        else
          readNamedMember fuel start
            (name.node bracketed (.other "computed_property_name")) bracketed
      else
        match memberName name with
        | none => none
        | some (node, behind) => readNamedMember fuel start node behind

def readNamedMember : Nat → Cursor → Node → Cursor → Option (Node × Cursor)
  | 0, _, _, _ => none
  | fuel + 1, start, name, cursor =>
    let name := name.withField .name
    if cursor.endsHere then some (start.node cursor .propertySignature [name], cursor)
    else
      let question := cursor.skipTrivia
      let optional := question.peek = some '?'
      let behind := if optional then question.advance else cursor
      let marks :=
        if optional then [{ question.node behind .questionMark with named := false }] else []
      let next := behind.skipTrivia
      if next.peek = some ':' then do
        let (type, stop) ← readType fuel true next.advance
        let clause := (next.node stop .typeClause [type]).withField .type
        return (start.node stop .propertySignature (name :: marks ++ [clause]), stop)
      else if (next.peek = some '(' || next.peek = some '<') && !behind.endsHere then do
        let stop ← readSignature fuel next
        return (start.node stop (.other "method_signature") (name :: marks), stop)
      else some (start.node behind .propertySignature (name :: marks), behind)

/-- Passes the parameters and the return type of a signature. -/
def readSignature : Nat → Cursor → Option Cursor
  | 0, _ => none
  | fuel + 1, cursor => do
    let parameters ← skipParameters cursor
    match expect ":" parameters with
    | none => return parameters
    | some colon =>
      let (_, behind) ← readReturn fuel true colon
      return behind

end

def typeAt (openEnded : Bool) (cursor : Cursor) : Option (Node × Cursor) :=
  readType (8 * cursor.rest.length + 8) openEnded cursor

def returnTypeAt (openEnded : Bool) (cursor : Cursor) : Option (Node × Cursor) :=
  readReturn (8 * cursor.rest.length + 8) openEnded cursor

end Companion.Syntax
