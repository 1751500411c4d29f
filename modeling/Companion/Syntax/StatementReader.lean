import Companion.Syntax.Expression

/-!
# Reading statements

Statements are told apart by their first words and read up to their end. Declarations keep their
name, a type alias also its type, an import its clauses; of the rest only kind and extent are known.
A word such as `type` or `export` that ends at a line break is an expression of its own.
-/

set_option autoImplicit false

namespace Companion.Syntax

def firstOf {α : Type} (first : Option α) (second : Unit → Option α) : Option α :=
  match first with
  | some result => some result
  | none => second ()

def Cursor.isWord (cursor : Cursor) (word : Text) : Bool := cursor.word = word

/-- Behind a word that must be next. -/
def expectWord (word : Text) (cursor : Cursor) : Option Cursor :=
  let next := cursor.skipTrivia
  if next.isWord word then some next.skipWord else none

/-- The identifier that must be next, as a node of a kind in the role of a name. -/
def expectName (kind : Kind) (cursor : Cursor) : Option (Node × Cursor) :=
  let next := cursor.skipTrivia
  if next.word.isEmpty then none
  else some ((next.node next.skipWord kind).withField .name, next.skipWord)

/-- The string that must be next, as a node. -/
def expectString (cursor : Cursor) : Option (Node × Cursor) :=
  let next := cursor.skipTrivia
  (stringLength next.rest).map fun length =>
    (next.node (next.skip length) .string, next.skip length)

def expressionStatement (markup : Bool) (start : Cursor) : Node × Cursor :=
  let behind := skipSemicolon (skipExpression markup start)
  (start.node behind (.other "expression_statement"), behind)

/-! ## Declarations -/

def skipHeritage : Nat → Cursor → Option Cursor
  | 0, _ => none
  | fuel + 1, cursor =>
    let next := cursor.skipTrivia
    match next.rest with
    | [] => none
    | c :: _ =>
      if c = '\x7b' then some next
      else if c = '<' then
        match skipAngles next with
        | some behind => skipHeritage fuel behind
        | none => none
      else if c = '(' || c = '[' then
        match skipBrackets false next with
        | some behind => skipHeritage fuel behind
        | none => none
      else if c = ';' || c = ')' || c = ']' || c = '\x7d' then none
      else if !next.word.isEmpty then skipHeritage fuel next.skipWord
      else skipHeritage fuel next.advance

/-- A class; the cursor is behind the word `class`. -/
def readClass (markup : Bool) (start : Cursor) (kind : Kind) (cursor : Cursor) :
    Option (Node × Cursor) := do
  let (name, behind) ← expectName .typeIdentifier cursor
  if name.text = "extends".toList || name.text = "implements".toList then none
  let body ← skipHeritage behind.rest.length behind
  let stop ← skipBrackets markup body
  return (start.node stop kind [name], stop)

/-- An interface; the cursor is behind the word `interface`. -/
def readInterface (start cursor : Cursor) : Option (Node × Cursor) := do
  let (name, behind) ← expectName .typeIdentifier cursor
  let body ← skipHeritage behind.rest.length behind
  let stop ← skipBrackets false body
  return (start.node stop .interfaceDeclaration [name], stop)

/-- An enumeration; the cursor is behind the word `enum`. -/
def readEnum (markup : Bool) (start cursor : Cursor) : Option (Node × Cursor) := do
  let (name, behind) ← expectName .identifier cursor
  let body := behind.skipTrivia
  if body.peek ≠ some '\x7b' then none
  let stop ← skipBrackets markup body
  return (start.node stop .enumDeclaration [name], stop)

/-- A function; the cursor is behind the word `function`. Without a body it is a signature. -/
def readFunction (markup : Bool) (start cursor : Cursor) : Option (Node × Cursor) := do
  let star := cursor.skipTrivia
  let generator := star.peek = some '*'
  let (name, behind) ← expectName .identifier (if generator then star.advance else cursor)
  let parameters ← skipAnglesIfAny behind
  let opening := parameters.skipTrivia
  if opening.peek ≠ some '(' then none
  let head ← skipBrackets false opening
  let head :=
    match expect ":" head with
    | none => head
    | some colon =>
      match returnTypeAt true colon with
      | some (_, typed) => typed
      | none => head
  let body := head.skipTrivia
  if body.peek = some '\x7b' then
    let stop ← skipBrackets markup body
    let kind := if generator then .generatorFunctionDeclaration else .functionDeclaration
    return (start.node stop kind [name], stop)
  else if body.peek = some ';' || head.endsHere false true then
    let stop := skipSemicolon head
    return (start.node stop .functionSignature [name], stop)
  else none

def readPattern (markup : Bool) (cursor : Cursor) : Option (Node × Cursor) :=
  let next := cursor.skipTrivia
  if next.peek = some '\x7b' || next.peek = some '[' then
    (skipBrackets markup next).map fun behind =>
      ((next.node behind (.other "pattern")).withField .name, behind)
  else expectName .identifier next

def readDeclarators (markup : Bool) : Nat → List Node → Cursor → Option (List Node × Cursor)
  | 0, _, _ => none
  | fuel + 1, read, cursor => do
    let start := cursor.skipTrivia
    let (name, behind) ← readPattern markup start
    let mark := behind.skipTrivia
    let behind := if mark.peek = some '!' then mark.advance else behind
    let typed ←
      match expect ":" behind with
      | none => some behind
      | some colon => (typeAt true colon).map (·.2)
    let sign := typed.skipTrivia
    let stop :=
      if sign.peek = some '=' && !sign.at? "=>" then skipExpression markup sign.advance true
      else typed
    let read := read ++ [start.node stop .variableDeclarator [name]]
    let next := stop.skipTrivia
    if next.peek = some ',' then readDeclarators markup fuel read next.advance
    else return (read, stop)

/-- A variable declaration; the cursor is behind its first word. -/
def readVariables (markup : Bool) (start : Cursor) (kind : Kind) (cursor : Cursor) :
    Option (Node × Cursor) := do
  let (declarators, behind) ← readDeclarators markup (cursor.rest.length + 1) [] cursor
  let stop := skipSemicolon behind
  return (start.node stop kind declarators, stop)

/-- A type alias; the cursor is behind the word `type`. -/
def readTypeAlias (start cursor : Cursor) : Option (Node × Cursor) := do
  let (name, behind) ← expectName .typeIdentifier cursor
  let angle := behind.skipTrivia
  let (parameters, behind) ←
    if angle.peek = some '<' then
      (skipAngles angle).map fun stop =>
        ([(angle.node stop (.other "type_parameters")).withField .typeParameters], stop)
    else some ([], behind)
  let sign ← expect "=" behind
  let (value, behind) ← typeAt true sign
  let stop := skipSemicolon behind
  return (start.node stop .typeAliasDeclaration
    (name :: parameters ++ [value.withField .value]), stop)

/-- A namespace or module with a body; the cursor is behind its first word. -/
def readNamespace (markup : Bool) (start : Cursor) (kind : Kind) (cursor : Cursor) :
    Option (Node × Cursor) := do
  let next := cursor.skipTrivia
  let behind ←
    match expectString next with
    | some (_, behind) => some behind
    | none => if next.word.isEmpty then none else some (skipPath next.rest.length next.skipWord)
  let name := (next.node behind .identifier).withField .name
  let body := behind.skipTrivia
  if body.peek = some '\x7b' then
    let stop ← skipBrackets markup body
    return (start.node stop kind [name], stop)
  else if next.peek = some '\'' || next.peek = some '"' then
    return (start.node (skipSemicolon behind) kind [name], skipSemicolon behind)
  else none

/-- An alias of a namespace member; the cursor is behind the word `import`. -/
def readImportAlias (start cursor : Cursor) : Option (Node × Cursor) := do
  let (_, behind) ← expectName .identifier cursor
  let sign ← expect "=" behind
  let (path, behind) ← expectName .identifier sign
  let behind := skipPath behind.rest.length behind
  if path.text = "require".toList && behind.skipTrivia.peek = some '(' then none
  let stop := skipSemicolon behind
  return (start.node stop (.other "import_alias"), stop)

def skipDecorators (markup : Bool) : Nat → Cursor → Cursor
  | 0, cursor => cursor
  | fuel + 1, cursor =>
    if cursor.peek ≠ some '@' then cursor
    else
      let next := cursor.advance.skipTrivia
      let head :=
        if next.peek = some '(' then (skipBrackets markup next).getD next.advance
        else skipPath next.rest.length next.skipWord
      let angle := head.skipTrivia
      let head := if angle.peek = some '<' then (skipAngles angle).getD head else head
      let call := head.skipTrivia
      let head := if call.peek = some '(' then (skipBrackets markup call).getD head else head
      skipDecorators markup fuel head.skipTrivia

/-- A declaration, if one starts at the cursor; `start` is where its node starts. -/
def readDeclaration (markup : Bool) : Nat → Cursor → Cursor → Option (Node × Cursor)
  | 0, _, _ => none
  | fuel + 1, start, cursor =>
    let word := cursor.word
    let behind := cursor.skipWord
    let next := behind.skipTrivia
    if cursor.peek = some '@' then
      let decorated := skipDecorators markup cursor.rest.length cursor
      if decorated.isWord "class" || decorated.isWord "abstract" then
        readDeclaration markup fuel start decorated
      else none
    else if word = "type".toList then readTypeAlias start behind
    else if word = "interface".toList then readInterface start behind
    else if word = "class".toList then readClass markup start .classDeclaration behind
    else if word = "abstract".toList then
      if next.isWord "class" then
        readClass markup start .abstractClassDeclaration next.skipWord
      else none
    else if word = "enum".toList then readEnum markup start behind
    else if word = "function".toList then readFunction markup start behind
    else if word = "async".toList then
      if next.isWord "function" then readFunction markup start next.skipWord else none
    else if word = "const".toList then
      if next.isWord "enum" then readEnum markup start next.skipWord
      else readVariables markup start .lexicalDeclaration behind
    else if word = "let".toList then
      if next.isWord "in" || next.isWord "instanceof" then none
      else readVariables markup start .lexicalDeclaration behind
    else if word = "var".toList then readVariables markup start .variableDeclaration behind
    else if word = "namespace".toList then
      readNamespace markup start (.other "internal_module") behind
    else if word = "module".toList then readNamespace markup start (.other "module") behind
    else if word = "import".toList then readImportAlias start behind
    else if word = "declare".toList then
      let stop :=
        if next.isWord "global" then skipBrackets markup next.skipWord.skipTrivia
        else (readDeclaration markup fuel next next).map (·.2)
      stop.map fun stop => (start.node stop (.other "ambient_declaration"), stop)
    else none

/-! ## Imports -/

/-- A name in an import or export list, which may be a string. -/
def listName (cursor : Cursor) : Option (Node × Cursor) :=
  firstOf (expectString cursor) fun _ =>
    let next := cursor.skipTrivia
    if next.word.isEmpty then none else some (next.node next.skipWord .identifier, next.skipWord)

/-- The names of one import specifier, up to a comma or the closing brace. -/
def specifierNames : Nat → List Node → Cursor → Option (List Node × Cursor)
  | 0, _, _ => none
  | fuel + 1, names, cursor =>
    let next := cursor.skipTrivia
    if next.peek = some ',' || next.peek = some '\x7d' then some (names, cursor)
    else
      match listName next with
      | some (name, behind) => specifierNames fuel (names ++ [name]) behind
      | none => none

/-- The roles of the names of an import specifier: a name alone, a name with an alias, either behind
the word `type`. -/
def specifierChildren : List Node → Option (List Node)
  | [name] => some [name.withField .name]
  | [_, name] => some [name.withField .name]
  | [name, _, given] => some [name.withField .name, given.withField .localName]
  | [_, name, _, given] => some [name.withField .name, given.withField .localName]
  | _ => none

/-- The specifiers of a named import up to the closing brace. -/
def readSpecifiers : Nat → List Node → Cursor → Option (List Node × Cursor)
  | 0, _, _ => none
  | fuel + 1, read, cursor => do
    let start := cursor.skipTrivia
    if start.peek = some '\x7d' then return (read, start.advance)
    let (names, behind) ← specifierNames 5 [] start
    let children ← specifierChildren names
    let read := read ++ [start.node behind .importSpecifier children]
    let next := behind.skipTrivia
    if next.peek = some ',' then readSpecifiers fuel read next.advance
    else if next.peek = some '\x7d' then return (read, next.advance)
    else none

/-- The parts of an import clause: a default name, a namespace, named imports. -/
def readClauseParts : Nat → List Node → Cursor → Option (List Node × Cursor)
  | 0, _, _ => none
  | fuel + 1, parts, cursor => do
    let start := cursor.skipTrivia
    let (part, behind) ←
      if start.peek = some '\x7b' then
        (readSpecifiers start.rest.length [] start.advance).map fun (specifiers, behind) =>
          (start.node behind .namedImports specifiers, behind)
      else if start.peek = some '*' then do
        let behind ← expectWord "as" start.advance
        let (_, behind) ← expectName .identifier behind
        pure (start.node behind (.other "namespace_import"), behind)
      else if start.word.isEmpty then none
      else some (start.node start.skipWord .identifier, start.skipWord)
    let next := behind.skipTrivia
    if next.peek = some ',' then readClauseParts fuel (parts ++ [part]) next.advance
    else return (parts ++ [part], behind)

def skipAttributes (cursor : Cursor) : Cursor :=
  let next := cursor.skipTrivia
  if next.isWord "with" || (next.isWord "assert" && !cursor.endsHere) then
    match skipBrackets false next.skipWord.skipTrivia with
    | some behind => behind
    | none => cursor
  else cursor

/-- An import with a clause; the cursor is in front of the clause. -/
def readClausedImport (start cursor : Cursor) : Option (Node × Cursor) := do
  let clause := cursor.skipTrivia
  let (parts, behind) ← readClauseParts 4 [] clause
  let source ← expectWord "from" behind
  let (path, stop) ← expectString source
  let final := skipSemicolon (skipAttributes stop)
  return (start.node final .importStatement
    [clause.node behind .importClause parts, path.withField .source], final)

/-- An import of a module as a required one; the cursor is in front of the local name. -/
def readRequire (start cursor : Cursor) : Option (Node × Cursor) := do
  let clause := cursor.skipTrivia
  let (_, behind) ← expectName .identifier clause
  let sign ← expect "=" behind
  let call ← expectWord "require" sign
  let opening := call.skipTrivia
  if opening.peek ≠ some '(' then none
  let stop ← skipBrackets false opening
  let behind := skipSemicolon stop
  return (start.node behind .importStatement
    [clause.node stop (.other "import_require_clause")], behind)

/-- An import statement; the cursor is behind the word `import`. -/
def readImport (start cursor : Cursor) : Option (Node × Cursor) :=
  let next := cursor.skipTrivia
  let typed := next.isWord "type" || next.isWord "typeof"
  match expectString next with
  | some (path, behind) =>
    let stop := skipSemicolon (skipAttributes behind)
    some (start.node stop .importStatement [path.withField .source], stop)
  | none =>
    firstOf (readRequire start next) fun _ =>
    firstOf (readImportAlias start next) fun _ =>
    firstOf (readClausedImport start next) fun _ =>
    if typed then
      firstOf (readRequire start next.skipWord) fun _ => readClausedImport start next.skipWord
    else none

/-! ## Exports -/

/-- Passes what an export names and where from, up to its end. -/
def skipExportClause : Nat → Cursor → Option Cursor
  | 0, _ => none
  | fuel + 1, cursor =>
    let next := cursor.skipTrivia
    if next.peek = some ';' then some next.advance
    else if next.peek = some '*' then skipExportClause fuel next.advance
    else if next.peek = some '\x7b' then
      match skipBrackets false next with
      | some behind => skipExportClause fuel behind
      | none => none
    else if next.isWord "from" || next.isWord "as" then
      match listName next.skipWord with
      | some (_, behind) => skipExportClause fuel behind
      | none => none
    else if next.isWord "with" || (next.isWord "assert" && !cursor.endsHere) then
      skipExportClause fuel next.skipWord
    else some cursor

/-- An export; the cursor is behind the word `export`. -/
def readExport (markup : Bool) (start cursor : Cursor) : Option (Node × Cursor) :=
  let next := cursor.skipTrivia
  let behind := next.skipWord.skipTrivia
  let plain : Cursor → Node × Cursor := fun stop => (start.node stop .exportStatement, stop)
  let declared : Node × Cursor → Node × Cursor := fun (node, stop) =>
    (start.node stop .exportStatement [node.withField .declaration], stop)
  if next.peek = some '*' || next.peek = some '\x7b' then
    (skipExportClause next.rest.length next).map plain
  else if next.peek = some '=' then
    some (plain (skipSemicolon (skipExpression markup next.advance)))
  else if next.isWord "as" && behind.isWord "namespace" then
    some (plain (skipSemicolon behind.skipWord.skipTrivia.skipWord))
  else if next.isWord "type" && (behind.peek = some '\x7b' || behind.peek = some '*') then
    (skipExportClause behind.rest.length behind).map plain
  else if next.isWord "default" then
    firstOf ((readDeclaration markup 8 behind behind).map declared) fun _ =>
      some (plain (skipSemicolon (skipExpression markup next.skipWord)))
  else (readDeclaration markup 8 next next).map declared

/-! ## Statements -/

def skipHead (markup : Bool) (cursor : Cursor) : Option Cursor :=
  let next := cursor.skipTrivia
  if next.peek = some '(' then skipBrackets markup next else none

def skipBlock (markup : Bool) (cursor : Cursor) : Option Cursor :=
  let next := cursor.skipTrivia
  if next.peek = some '\x7b' then skipBrackets markup next else none

def skipHandlers (markup : Bool) : Nat → Cursor → Option Cursor
  | 0, cursor => some cursor
  | fuel + 1, cursor =>
    let next := cursor.skipTrivia
    if next.isWord "catch" then
      let head := (skipHead markup next.skipWord).getD next.skipWord
      match skipBlock markup head with
      | some behind => skipHandlers markup fuel behind
      | none => none
    else if next.isWord "finally" then
      match skipBlock markup next.skipWord with
      | some behind => skipHandlers markup fuel behind
      | none => none
    else some cursor

/-- Words that are expressions of their own where a line break follows. -/
def isLooseWord (word : Text) : Bool :=
  word.isOneOf ["export", "type", "declare", "namespace", "module", "async", "let"]

/-- A statement whose first word is a keyword with a form of its own; nested statements are read by
`nested`. -/
def readKeyword (markup : Bool) (nested : Cursor → Option (Node × Cursor)) (start : Cursor) :
    Option (Node × Cursor) :=
  let word := start.word
  let behind := start.skipWord
  let next := behind.skipTrivia
  let result : String → Cursor → Node × Cursor := fun kind stop =>
    (start.node stop (.other kind), stop)
  if word = "if".toList then do
    let head ← skipHead markup behind
    let (_, stop) ← nested head.skipTrivia
    let other := stop.skipTrivia
    if other.isWord "else" then
      let (_, stop) ← nested other.skipWord.skipTrivia
      return result "if_statement" stop
    else return result "if_statement" stop
  else if word = "for".toList then do
    let opening := if next.isWord "await" then next.skipWord.skipTrivia else next
    let head ← skipHead markup opening
    let (_, stop) ← nested head.skipTrivia
    let words := opening.textTo head
    let kind :=
      if words.contains ';' then "for_statement" else "for_in_statement"
    return result kind stop
  else if word = "while".toList then do
    let head ← skipHead markup behind
    let (_, stop) ← nested head.skipTrivia
    return result "while_statement" stop
  else if word = "with".toList then do
    let head ← skipHead markup behind
    let (_, stop) ← nested head.skipTrivia
    return result "with_statement" stop
  else if word = "do".toList then do
    let (_, body) ← nested next
    let condition ← expectWord "while" body
    let stop ← skipHead markup condition
    return result "do_statement" (skipSemicolon stop)
  else if word = "switch".toList then do
    let head ← skipHead markup behind
    let stop ← skipBlock markup head
    return result "switch_statement" stop
  else if word = "try".toList then do
    let block ← skipBlock markup behind
    let stop ← skipHandlers markup 2 block
    return result "try_statement" stop
  else if word = "throw".toList then
    some (result "throw_statement" (skipSemicolon (skipExpression markup behind)))
  else if word = "return".toList then
    let stop := if behind.endsHere true then behind else skipExpression markup behind
    some (result "return_statement" (skipSemicolon stop))
  else if word = "break".toList || word = "continue".toList then
    let stop := if behind.endsHere true || next.word.isEmpty then behind else next.skipWord
    some (result (if word = "break".toList then "break_statement" else "continue_statement")
      (skipSemicolon stop))
  else if word = "debugger".toList then
    some (result "debugger_statement" (skipSemicolon behind))
  else none

/-- A statement; the cursor stands in front of its first token. -/
def readStatement (markup : Bool) : Nat → Cursor → Node × Cursor
  | 0, cursor => expressionStatement markup cursor
  | fuel + 1, start =>
    let word := start.word
    let behind := start.skipWord
    let next := behind.skipTrivia
    let nested : Cursor → Option (Node × Cursor) := fun cursor =>
      if cursor.rest.isEmpty then none else some (readStatement markup fuel cursor)
    if start.peek = some ';' then
      (start.node start.advance (.other "empty_statement"), start.advance)
    else if start.peek = some '\x7b' then
      match skipBrackets markup start with
      | some stop => (start.node stop (.other "statement_block"), stop)
      | none => expressionStatement markup start
    else if start.peek = some '@' then
      let decorated := skipDecorators markup start.rest.length start
      let read :=
        if decorated.isWord "export" then readExport markup start decorated.skipWord
        else readDeclaration markup 8 start start
      read.getD (expressionStatement markup start)
    else if word.isEmpty then expressionStatement markup start
    else if isLooseWord word && behind.endsHere true then expressionStatement markup start
    else if word = "export".toList then
      (readExport markup start behind).getD (expressionStatement markup start)
    else if word = "import".toList then
      if next.peek = some '(' || next.peek = some '.' then expressionStatement markup start
      else (readImport start behind).getD (expressionStatement markup start)
    else if word = "namespace".toList then
      match readDeclaration markup 8 start start with
      | some (_, stop) =>
        let stop := skipSemicolon stop
        (start.node stop (.other "expression_statement"), stop)
      | none => expressionStatement markup start
    else if next.peek = some ':' && (readKeyword markup nested start).isNone then
      match nested next.advance.skipTrivia with
      | some (_, stop) => (start.node stop (.other "labeled_statement"), stop)
      | none => expressionStatement markup start
    else
      (firstOf (readKeyword markup nested start) fun _ => readDeclaration markup 8 start start).getD
        (expressionStatement markup start)

/-- The statements of a text, each with the place where it starts. What cannot be read is passed
over character by character. -/
def readStatements (markup : Bool) : Nat → List (Nat × Node) → Cursor → List (Nat × Node) × Cursor
  | 0, read, cursor => (read, cursor)
  | fuel + 1, read, cursor =>
    let start := cursor.skipTrivia
    if start.rest.isEmpty then (read, start)
    else
      let (node, stop) := readStatement markup start.rest.length start
      if stop.offset = start.offset then readStatements markup fuel read start.advance
      else readStatements markup fuel (read ++ [(start.offset, node)]) stop

def readInterpreterLine (cursor : Cursor) : List (Nat × Node) × Cursor :=
  let start := cursor.skipTrivia
  if start.at? "#!" then
    let stop := start.skip (start.rest.takeWhile (· ≠ '\n')).length
    ([(start.offset, start.node stop (.other "hash_bang_line"))], stop)
  else ([], cursor)

end Companion.Syntax
