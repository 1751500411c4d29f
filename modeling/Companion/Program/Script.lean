import Companion.Text.Blank
import Companion.Text.Word

/-!
# Scripts

The part of the shell's command language that small filters are written in: commands with quoted
words and parameters, sequences, conditions, pipes, and redirections between the standard streams.
-/

set_option autoImplicit false

namespace Companion

inductive Piece where
  | literal (text : Text)
  /-- The value of a parameter, kept in one piece if it is quoted. -/
  | parameter (name : Text) (quoted : Bool)
deriving DecidableEq, Repr

/-- A word before its parameters are replaced. -/
abbrev Word := List Piece

/-- Where the streams of a command lead. -/
inductive Redirection where
  | outputToErrors
  | errorsToOutput
  | dropOutput
  | dropErrors
  | emptyInput
deriving DecidableEq, Repr

inductive Script where
  | nothing
  | command (words : List Word) (redirections : List Redirection)
  | sequence (first second : Script)
  /-- The second part only if the first one succeeds. -/
  | both (first second : Script)
  /-- The second part only if the first one fails. -/
  | either (first second : Script)
  | pipe (first second : Script)
  | negation (body : Script)
  | choice (condition body otherwise : Script)
deriving Repr

namespace Script

inductive Token where
  | word (pieces : Word)
  | redirection (kind : Redirection)
  | symbol (text : Text)
deriving DecidableEq, Repr

def redirections : List (Text × Redirection) :=
  [("1>&2", .outputToErrors), (">&2", .outputToErrors), ("2>&1", .errorsToOutput),
    ("2>/dev/null", .dropErrors), ("2> /dev/null", .dropErrors), (">/dev/null", .dropOutput),
    ("> /dev/null", .dropOutput), ("1>/dev/null", .dropOutput), ("</dev/null", .emptyInput),
    ("< /dev/null", .emptyInput)]

/-- The symbols between commands, longer ones first. -/
def symbols : List Text := ["&&", "||", ";", "|", "(", ")", "\n"]

def endsWord (c : Char) : Bool := c ∈ [' ', '\t', '\n', ';', '&', '|', '(', ')', '<', '>']

/-- The parameter behind a dollar sign and what is left behind it; a dollar sign may stand alone. -/
def readParameter (quoted : Bool) : Text → Piece × Text
  | '\x7b' :: rest =>
    (.parameter (rest.takeWhile (· ≠ '\x7d')) quoted, (rest.dropWhile (· ≠ '\x7d')).drop 1)
  | c :: rest =>
    if isAsciiDigit c || c ∈ ['@', '*', '#', '?', '$'] then (.parameter [c] quoted, rest)
    else if isAsciiLetter c || c = '_' then
      let isNamePart := fun d => isAsciiLetter d || isAsciiDigit d || d = '_'
      (.parameter ((c :: rest).takeWhile isNamePart) quoted, (c :: rest).dropWhile isNamePart)
    else (.literal ['$'], c :: rest)
  | [] => (.literal ['$'], [])

/-- The rest of a word, and what is left behind it; `inQuotes` between double quotes. -/
def readWord : Nat → Bool → Text → Option (Word × Text)
  | 0, _, _ => none
  | _ + 1, false, [] => some ([], [])
  | _ + 1, true, [] => none
  | fuel + 1, inQuotes, c :: rest =>
    let go : Piece → Bool → Text → Option (Word × Text) := fun piece quotes left =>
      (readWord fuel quotes left).map fun (word, left) => (piece :: word, left)
    if c = '"' then go (.literal []) (!inQuotes) rest
    else if c = '$' then
      let (piece, left) := readParameter inQuotes rest
      go piece inQuotes left
    else if inQuotes then
      if c = '\\' then
        match rest with
        | d :: left =>
          if d ∈ ['"', '\\', '$', '\x60'] then go (.literal [d]) true left
          else go (.literal [c, d]) true left
        | [] => none
      else go (.literal [c]) true rest
    else if c = '\'' then
      let left := rest.dropWhile (· ≠ '\'')
      if left.isEmpty then none
      else go (.literal (rest.takeWhile (· ≠ '\''))) false (left.drop 1)
    else if c = '\\' then
      match rest with
      | d :: left => go (.literal [d]) false left
      | [] => some ([.literal [c]], [])
    else if endsWord c then some ([], c :: rest)
    else go (.literal [c]) false rest

def tokens : Nat → Text → Option (List Token)
  | 0, _ => none
  | _, [] => some []
  | fuel + 1, c :: rest =>
    if c = ' ' || c = '\t' then tokens fuel rest
    else if c = '#' then tokens fuel (rest.dropWhile (· ≠ '\n'))
    else
      match redirections.find? fun entry => entry.1.isPrefixOf (c :: rest) with
      | some (mark, kind) =>
        (tokens fuel ((c :: rest).drop mark.length)).map (.redirection kind :: ·)
      | none =>
        match symbols.find? fun symbol => symbol.isPrefixOf (c :: rest) with
        | some symbol => (tokens fuel ((c :: rest).drop symbol.length)).map (.symbol symbol :: ·)
        | none =>
          if endsWord c then none
          else do
            let (word, left) ← readWord (rest.length + 2) false (c :: rest)
            let more ← tokens fuel left
            return .word word :: more

def plainText? (word : Word) : Option Text :=
  (word.mapM fun piece =>
    match piece with
    | Piece.literal text => some text
    | Piece.parameter _ _ => none).map List.flatten

def Token.isWord (token : Token) (text : Text) : Bool :=
  match token with
  | .word pieces => plainText? pieces = some text
  | _ => false

def Token.isSeparator (token : Token) : Bool :=
  token = .symbol ";" || token = .symbol "\n"

def closers : List Text := ["then", "elif", "else", "fi", "\x7d"]

def isClosed : List Token → Bool
  | [] => true
  | token :: _ => token = .symbol ")" || closers.any token.isWord

/-- Words and redirections up to the end of a simple command. -/
def readSimple : List Token → List Word × List Redirection × List Token
  | .word word :: rest =>
    let (words, kinds, left) := readSimple rest
    (word :: words, kinds, left)
  | .redirection kind :: rest =>
    let (words, kinds, left) := readSimple rest
    (words, kind :: kinds, left)
  | rest => ([], [], rest)

def expect (text : Text) : List Token → Option (List Token)
  | token :: rest => if token.isWord text then some rest else none
  | [] => none

mutual

def readList : Nat → List Token → Option (Script × List Token)
  | 0, _ => none
  | fuel + 1, tokens =>
    let tokens := tokens.dropWhile Token.isSeparator
    if isClosed tokens then some (.nothing, tokens)
    else do
      let (first, rest) ← readChain fuel tokens
      match rest with
      | token :: rest =>
        if token.isSeparator then
          let (second, rest) ← readList fuel rest
          return (.sequence first second, rest)
        else if isClosed (token :: rest) then return (first, token :: rest)
        else none
      | [] => return (first, [])

def readChain : Nat → List Token → Option (Script × List Token)
  | 0, _ => none
  | fuel + 1, tokens => do
    let (first, rest) ← readPipe fuel tokens
    readChainBehind fuel first rest

def readChainBehind : Nat → Script → List Token → Option (Script × List Token)
  | 0, _, _ => none
  | fuel + 1, first, .symbol symbol :: rest =>
    if symbol = "&&".toList then do
      let (second, rest) ← readPipe fuel rest
      readChainBehind fuel (.both first second) rest
    else if symbol = "||".toList then do
      let (second, rest) ← readPipe fuel rest
      readChainBehind fuel (.either first second) rest
    else some (first, .symbol symbol :: rest)
  | _ + 1, first, rest => some (first, rest)

def readPipe : Nat → List Token → Option (Script × List Token)
  | 0, _ => none
  | fuel + 1, tokens => do
    let (first, rest) ← readCommand fuel tokens
    match rest with
    | .symbol ['|'] :: rest =>
      let (second, rest) ← readPipe fuel rest
      return (.pipe first second, rest)
    | rest => return (first, rest)

def readCommand : Nat → List Token → Option (Script × List Token)
  | 0, _ => none
  | fuel + 1, tokens =>
    match tokens with
    | .symbol ['('] :: rest => do
      let (body, rest) ← readList fuel rest
      match rest with
      | .symbol [')'] :: rest => return (body, rest)
      | _ => none
    | token :: rest =>
      if token.isWord "!" then do
        let (body, rest) ← readCommand fuel rest
        return (.negation body, rest)
      else if token.isWord "\x7b" then do
        let (body, rest) ← readList fuel rest
        let rest ← expect "\x7d" rest
        return (body, rest)
      else if token.isWord "if" then readChoice fuel rest
      else
        let (words, kinds, rest) := readSimple (token :: rest)
        if words.isEmpty then none else some (.command words kinds, rest)
    | [] => none

def readChoice : Nat → List Token → Option (Script × List Token)
  | 0, _ => none
  | fuel + 1, tokens => do
    let (condition, rest) ← readList fuel tokens
    let rest ← expect "then" rest
    let (body, rest) ← readList fuel rest
    match rest with
    | token :: rest =>
      if token.isWord "fi" then return (.choice condition body .nothing, rest)
      else if token.isWord "else" then
        let (otherwise, rest) ← readList fuel rest
        let rest ← expect "fi" rest
        return (.choice condition body otherwise, rest)
      else if token.isWord "elif" then
        let (otherwise, rest) ← readChoice fuel rest
        return (.choice condition body otherwise, rest)
      else none
    | [] => none

end

/-- Reads a script; `none` if it is not in the supported language. -/
def parse (text : Text) : Option Script := do
  let tokens ← tokens (text.length + 1) text
  let (script, rest) ← readList (8 * tokens.length + 8) tokens
  if rest.isEmpty then return script else none

end Script

end Companion
